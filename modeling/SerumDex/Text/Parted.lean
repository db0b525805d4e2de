namespace SerumDex.Text

/-- The text has these parts, and only characters of a kind in its gaps. -/
def Parted (gap : Char → Bool) : List (List Char) → List Char → Prop
  | [], text => ∀ c ∈ text, gap c
  | part :: parts, text =>
    ∃ front rest, text = front ++ part ++ rest ∧ (∀ c ∈ front, gap c) ∧ Parted gap parts rest

/-- Texts that occur in a text one behind the other, whatever stands between them. -/
def OccurInOrder (parts : List String) (text : String) : Prop :=
  Parted (fun _ => true) (parts.map String.toList) text.toList

namespace Parted

variable {gap : Char → Bool} {parts others : List (List Char)} {text more : List Char}

theorem gap_append {front : List Char} (hfront : ∀ c ∈ front, gap c) (h : Parted gap parts text) :
    Parted gap parts (front ++ text) := by
  cases parts with
  | nil =>
    intro c hc
    exact (List.mem_append.mp hc).elim (hfront c) (h c)
  | cons part parts =>
    obtain ⟨next, rest, rfl, hnext, hrest⟩ := h
    refine ⟨front ++ next, rest, ?_, ?_, hrest⟩
    · simp only [List.append_assoc]
    · intro c hc
      exact (List.mem_append.mp hc).elim (hfront c) (hnext c)

theorem append (h : Parted gap parts text) (hmore : Parted gap others more) :
    Parted gap (parts ++ others) (text ++ more) := by
  induction parts generalizing text with
  | nil => exact hmore.gap_append h
  | cons part parts ih =>
    obtain ⟨front, rest, rfl, hfront, hrest⟩ := h
    refine ⟨front, rest ++ more, ?_, hfront, ih hrest⟩
    simp only [List.append_assoc]

theorem cons (part : List Char) (h : Parted gap parts text) :
    Parted gap (part :: parts) (part ++ text) :=
  ⟨[], text, rfl, nofun, h⟩

/-- Parts need no gaps. -/
theorem flatten : Parted gap parts parts.flatten := by
  induction parts with
  | nil => exact nofun
  | cons part parts ih => exact ih.cons part

/-- A part that is left out goes to the gap where it stood. -/
theorem sublist (hsub : others.Sublist parts) (h : Parted (fun _ => true) parts text) :
    Parted (fun _ => true) others text := by
  induction hsub generalizing text with
  | slnil => exact h
  | cons part _ ih =>
    obtain ⟨front, rest, rfl, _, hrest⟩ := h
    exact (ih hrest).gap_append fun _ _ => rfl
  | cons_cons part _ ih =>
    obtain ⟨front, rest, htext, hfront, hrest⟩ := h
    exact ⟨front, rest, htext, hfront, ih hrest⟩

end Parted

namespace OccurInOrder

variable {parts others : List String} {text more : String}

theorem append (h : OccurInOrder parts text) (hmore : OccurInOrder others more) :
    OccurInOrder (parts ++ others) (text ++ more) := by
  unfold OccurInOrder
  rw [List.map_append, String.toList_append]
  exact Parted.append h hmore

theorem self (text : String) : OccurInOrder [text] text :=
  ⟨[], [], (List.append_nil _).symm, nofun, nofun⟩

theorem sublist (hsub : others.Sublist parts) (h : OccurInOrder parts text) :
    OccurInOrder others text :=
  Parted.sublist (hsub.map String.toList) h

end OccurInOrder

end SerumDex.Text
