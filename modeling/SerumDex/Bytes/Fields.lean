import SerumDex.Bytes.Basic

namespace SerumDex

/-- Puts bytes at an offset, over those that are there. -/
def putAt (data : Bytes) (offset : Nat) (bs : Bytes) : Bytes :=
  data.take offset ++ bs ++ data.drop (offset + bs.length)

/-- Puts fields at their offsets, one after another. -/
def putFields (data : Bytes) (fields : List (Nat × Bytes)) : Bytes :=
  fields.foldl (fun data field => putAt data field.1 field.2) data

/-- Each field begins where the one before it ends. -/
def SideBySide : Nat → List (Nat × Bytes) → Prop
  | _, [] => True
  | start, (offset, bs) :: fields => offset = start ∧ SideBySide (start + bs.length) fields

theorem putAt_append (front gap back bs : Bytes) (h : gap.length = bs.length) :
    putAt (front ++ gap ++ back) front.length bs = front ++ bs ++ back := by
  have hfront : (front ++ gap ++ back).take front.length = front := by
    rw [List.append_assoc, List.take_left' rfl]
  have hback : (front ++ gap ++ back).drop (front.length + bs.length) = back := by
    apply List.drop_left'
    rw [List.length_append, h]
  rw [putAt, hfront, hback]

/-- Fields that lie side by side fill a gap of their size, and leave what is around it. -/
theorem putFields_append (fields : List (Nat × Bytes)) (front gap back : Bytes)
    (hfields : SideBySide front.length fields)
    (hgap : gap.length = (fields.flatMap Prod.snd).length) :
    putFields (front ++ gap ++ back) fields = front ++ fields.flatMap Prod.snd ++ back := by
  induction fields generalizing front gap with
  | nil =>
    have hnil : gap = [] := List.eq_nil_of_length_eq_zero hgap
    rw [hnil]
    rfl
  | cons field fields ih =>
    obtain ⟨offset, bs⟩ := field
    obtain ⟨rfl, hfields⟩ := hfields
    have hsizes : gap.length = bs.length + (fields.flatMap Prod.snd).length := by
      rw [hgap, List.flatMap_cons, List.length_append]
    -- The first field takes its part of the gap, and the others have the rest of it.
    have hsplit : front ++ gap ++ back =
        front ++ gap.take bs.length ++ (gap.drop bs.length ++ back) := by
      simp only [List.append_assoc, ← List.append_assoc (gap.take bs.length),
        List.take_append_drop]
    have hfirst : (gap.take bs.length).length = bs.length := by
      rw [List.length_take]
      omega
    have hrest : (gap.drop bs.length).length = (fields.flatMap Prod.snd).length := by
      rw [List.length_drop]
      omega
    rw [← List.length_append] at hfields
    calc putFields (front ++ gap ++ back) ((front.length, bs) :: fields)
        = putFields (putAt (front ++ gap ++ back) front.length bs) fields := rfl
      _ = putFields (front ++ bs ++ gap.drop bs.length ++ back) fields := by
          rw [hsplit, putAt_append front _ _ bs hfirst, ← List.append_assoc]
      _ = front ++ bs ++ fields.flatMap Prod.snd ++ back := ih _ _ hfields hrest
      _ = front ++ ((front.length, bs) :: fields).flatMap Prod.snd ++ back := by
          rw [List.flatMap_cons, List.append_assoc front]

end SerumDex
