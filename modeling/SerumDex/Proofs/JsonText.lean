import Mathlib.Data.List.TakeWhile
import SerumDex.Json.Printer
import SerumDex.Proofs.JsonLiterals

namespace SerumDex.Json

open Text

section Blanks

variable {tokens others : List (List Char)} {text rest : List Char}

theorem skipBlanks_of_parted {c : Char} {cs : List Char} (hc : ¬ isBlank c)
    (h : Parted isBlank ((c :: cs) :: tokens) text) :
    ∃ rest, skipBlanks text = c :: (cs ++ rest) ∧ Parted isBlank tokens rest ∧
      cs.length + rest.length < text.length := by
  obtain ⟨front, rest, rfl, hfront, hrest⟩ := h
  refine ⟨rest, ?_, hrest, ?_⟩
  · unfold skipBlanks
    rw [List.append_assoc, List.dropWhile_append_of_pos hfront, List.cons_append,
      List.dropWhile_cons_of_neg hc]
  · simp only [List.length_append, List.length_cons]
    omega

/-- The tokens still stand there when the blanks before the first one are skipped. -/
theorem parted_skipBlanks {c : Char} {cs : List Char} (hc : ¬ isBlank c)
    (hfirst : tokens.head? = some (c :: cs)) (h : Parted isBlank tokens text) :
    Parted isBlank tokens (skipBlanks text) ∧ ∃ rest, skipBlanks text = c :: rest := by
  obtain ⟨tokens, rfl⟩ := List.head?_eq_some_iff.mp hfirst
  obtain ⟨rest, hskip, hrest, _⟩ := skipBlanks_of_parted hc h
  rw [hskip]
  exact ⟨hrest.cons (c :: cs), _, rfl⟩

theorem length_skipBlanks_le (text : List Char) : (skipBlanks text).length ≤ text.length :=
  (List.dropWhile_sublist isBlank).length_le

theorem not_goesOn_of_isBlank {c : Char} (h : isBlank c) : ¬ GoesOn c := by
  unfold isBlank at h
  simp only [Bool.or_eq_true, decide_eq_true_iff] at h
  rcases h with ((rfl | rfl) | rfl) | rfl <;> unfold GoesOn <;> decide

/-- What may come behind a value, if anything does: a comma, or the end of what the value is in. -/
def Closes (tokens : List (List Char)) : Prop :=
  ∀ token ∈ tokens.head?, token ∈ [[','], [']'], ['}']]

theorem Closes.noHead (hcloses : Closes tokens) (h : Parted isBlank tokens text) :
    NoHead GoesOn text := by
  intro c hc
  cases tokens with
  | nil =>
    obtain ⟨rest, rfl⟩ := List.head?_eq_some_iff.mp hc
    exact not_goesOn_of_isBlank (h c List.mem_cons_self)
  | cons token tokens =>
    obtain ⟨front, rest, rfl, hfront, _⟩ := h
    cases front with
    | cons b front =>
      obtain rfl : b = c := Option.some.inj hc
      exact not_goesOn_of_isBlank (hfront b List.mem_cons_self)
    | nil =>
      have htoken := hcloses token rfl
      simp only [List.mem_cons, List.not_mem_nil, or_false] at htoken
      rcases htoken with rfl | rfl | rfl <;> obtain rfl := Option.some.inj hc <;> unfold GoesOn <;>
        decide

/-- The text begins with the tokens, and this is left of it. -/
def Begins (tokens : List (List Char)) (text rest : List Char) : Prop :=
  ∃ front, text = front ++ rest ∧ Parted isBlank tokens front

theorem Begins.of_skipBlanks (h : Begins tokens (skipBlanks text) rest) :
    Begins tokens text rest := by
  obtain ⟨front, hskip, hfront⟩ := h
  have hblanks : ∀ c ∈ text.takeWhile isBlank, isBlank c :=
    fun c hc => List.all_eq_true.mp List.all_takeWhile c hc
  refine ⟨text.takeWhile isBlank ++ front, ?_, hfront.gap_append hblanks⟩
  rw [List.append_assoc, ← hskip]
  exact List.takeWhile_append_dropWhile.symm

theorem begins_token {token : List Char} (h : skipBlanks text = token ++ rest) :
    Begins [token] text rest := by
  apply Begins.of_skipBlanks
  rw [h]
  exact ⟨token, rfl, [], [], (List.append_nil _).symm, nofun, nofun⟩

theorem Begins.append {later : List Char} (h : Begins tokens text rest)
    (hothers : Begins others rest later) : Begins (tokens ++ others) text later := by
  obtain ⟨front, rfl, hfront⟩ := h
  obtain ⟨next, rfl, hnext⟩ := hothers
  exact ⟨front ++ next, (List.append_assoc _ _ _).symm, hfront.append hnext⟩

end Blanks

section Reading

-- The equations of the parser are derived here, once for all the proofs below.
attribute [local simp] scanValue scanItems scanMembers

theorem IsNumber.exists_cons {cs : List Char} (h : IsNumber cs) :
    ∃ c rest, cs = c :: rest ∧ (c = '-' ∨ c.isDigit) := by
  obtain ⟨sign, hsign, ds, hds, rfl⟩ := h
  simp only [List.mem_cons, List.not_mem_nil, or_false] at hsign
  rcases hsign with rfl | rfl
  · obtain ⟨c, rest, rfl, hc⟩ := hds.exists_cons
    exact ⟨c, rest, rfl, Or.inr hc⟩
  · exact ⟨'-', ds, rfl, Or.inl rfl⟩

theorem not_isBlank_of_number {c : Char} (hc : c = '-' ∨ c.isDigit) : ¬ isBlank c := by
  intro h
  unfold isBlank at h
  simp only [Bool.or_eq_true, decide_eq_true_iff] at h
  rcases h with ((rfl | rfl) | rfl) | rfl <;> revert hc <;> decide

/-- A value begins with a character that is neither a blank nor the end of an array. -/
theorem exists_first_token {v : Json} (hv : v.WellFormed) :
    ∃ c cs, v.tokens.head? = some (c :: cs) ∧ ¬ isBlank c ∧ c ≠ ']' := by
  cases v with
  | null => exact ⟨_, _, rfl, by decide, by decide⟩
  | bool b => cases b <;> exact ⟨_, _, rfl, by decide, by decide⟩
  | number literal =>
    obtain ⟨c, rest, hliteral, hc⟩ := IsNumber.exists_cons hv
    refine ⟨c, rest, ?_, not_isBlank_of_number hc, ?_⟩
    · rw [tokens, hliteral]
      rfl
    · rintro rfl
      exact absurd hc (by decide)
  | string literal => exact ⟨_, _, rfl, by decide, by decide⟩
  | array items => exact ⟨_, _, rfl, by decide, by decide⟩
  | object members => exact ⟨_, _, rfl, by decide, by decide⟩

theorem skipBlanks_of_string {literal : String} {tokens : List (List Char)} {text : List Char}
    (h : Parted isBlank (stringToken literal :: tokens) text) :
    ∃ rest, skipBlanks text = '"' :: (literal.toList ++ '"' :: rest) ∧
      Parted isBlank tokens rest ∧ rest.length < text.length := by
  obtain ⟨rest, hskip, hrest, hlength⟩ := skipBlanks_of_parted (by decide) h
  refine ⟨rest, ?_, hrest, by omega⟩
  rw [hskip]
  exact congrArg ('"' :: ·) (List.append_assoc _ _ _)

section Unfold

variable {fuel : Nat} {c : Char} {text inner cs : List Char}

theorem scanValue_of_number (hc : c = '-' ∨ c.isDigit) (hskip : skipBlanks text = c :: cs) :
    scanValue (fuel + 1) text = scanNumber (c :: cs) := by
  rw [scanValue, hskip]
  split
  all_goals first
    | rfl
    | next h =>
      rw [(List.cons.inj h).1] at hc
      exact absurd hc (by decide)

theorem scanValue_of_items (hskip : skipBlanks text = '[' :: inner)
    (hinner : skipBlanks inner = c :: cs) (hc : c ≠ ']') : scanValue (fuel + 1) text =
      (scanItems fuel (skipBlanks inner)).map fun p => (.array p.1, p.2) := by
  simp only [scanValue, hskip]
  split
  · next h =>
    rw [hinner] at h
    exact absurd (List.cons.inj h).1 hc
  · rfl

theorem scanValue_of_members (hskip : skipBlanks text = '{' :: inner)
    (hinner : skipBlanks inner = c :: cs) (hc : c ≠ '}') : scanValue (fuel + 1) text =
      (scanMembers fuel (skipBlanks inner)).map fun p => (.object p.1, p.2) := by
  simp only [scanValue, hskip]
  split
  · next h =>
    rw [hinner] at h
    exact absurd (List.cons.inj h).1 hc
  · rfl

end Unfold

theorem itemTokens_cons (item : Json) {items : List Json} (hne : items ≠ []) :
    itemTokens (item :: items) = item.tokens ++ [','] :: itemTokens items := by
  rw [itemTokens]
  exact hne

theorem memberTokens_cons (key : String) (value : Json) {members : List (String × Json)}
    (hne : members ≠ []) : memberTokens ((key, value) :: members) =
      stringToken key :: [':'] :: value.tokens ++ [','] :: memberTokens members := by
  rw [memberTokens]
  exact hne

theorem exists_first_item {item : Json} (hitem : item.WellFormed) (items : List Json) :
    ∃ c cs, (itemTokens (item :: items)).head? = some (c :: cs) ∧ ¬ isBlank c ∧ c ≠ ']' := by
  obtain ⟨c, cs, hfirst, hc⟩ := exists_first_token hitem
  refine ⟨c, cs, ?_, hc⟩
  cases items with
  | nil => exact hfirst
  | cons next items =>
    rw [itemTokens_cons item (List.cons_ne_nil next items), List.head?_append, hfirst]
    rfl

theorem head?_memberTokens (key : String) (value : Json) (members : List (String × Json)) :
    (memberTokens ((key, value) :: members)).head? = some (stringToken key) := by
  cases members <;> rfl

/-- Where the tokens of a value stand, the value is read and what is behind them is left. Fuel for
two calls a character is enough: one for the value there, one for the list that it goes on. -/
def ReadsBack (v : Json) : Prop :=
  ∀ fuel text more, Closes more → Parted isBlank (v.tokens ++ more) text →
    2 * text.length < fuel → ∃ rest, scanValue fuel text = some (v, rest) ∧
      Parted isBlank more rest ∧ rest.length < text.length

def ItemsReadBack (items : List Json) : Prop :=
  ∀ fuel text more, Parted isBlank (itemTokens items ++ [']'] :: more) text →
    2 * text.length + 1 < fuel → ∃ rest, scanItems fuel text = some (items, rest) ∧
      Parted isBlank more rest ∧ rest.length < text.length

def MembersReadBack (members : List (String × Json)) : Prop :=
  ∀ fuel text more, Parted isBlank (memberTokens members ++ ['}'] :: more) text →
    2 * text.length + 1 < fuel → ∃ rest, scanMembers fuel text = some (members, rest) ∧
      Parted isBlank more rest ∧ rest.length < text.length

theorem readsBack_null : ReadsBack .null := by
  intro fuel text more _ h hfuel
  obtain ⟨fuel, rfl⟩ := Nat.exists_eq_add_one_of_ne_zero (Nat.ne_zero_of_lt hfuel)
  obtain ⟨rest, hskip, hrest, hlength⟩ := skipBlanks_of_parted (by decide) h
  refine ⟨rest, ?_, hrest, by omega⟩
  rw [scanValue, hskip]
  rfl

theorem readsBack_bool (b : Bool) : ReadsBack (.bool b) := by
  intro fuel text more _ h hfuel
  obtain ⟨fuel, rfl⟩ := Nat.exists_eq_add_one_of_ne_zero (Nat.ne_zero_of_lt hfuel)
  cases b
  all_goals
    obtain ⟨rest, hskip, hrest, hlength⟩ := skipBlanks_of_parted (by decide) h
    refine ⟨rest, ?_, hrest, by omega⟩
    rw [scanValue, hskip]
    rfl

theorem readsBack_number {literal : String} (hliteral : IsNumber literal.toList) :
    ReadsBack (.number literal) := by
  intro fuel text more hmore h hfuel
  obtain ⟨fuel, rfl⟩ := Nat.exists_eq_add_one_of_ne_zero (Nat.ne_zero_of_lt hfuel)
  obtain ⟨c, cs, hcons, hc⟩ := hliteral.exists_cons
  rw [tokens, hcons] at h
  obtain ⟨rest, hskip, hrest, hlength⟩ := skipBlanks_of_parted (not_isBlank_of_number hc) h
  have hscan := scanNumber_append hliteral (hmore.noHead hrest)
  refine ⟨rest, ?_, hrest, by omega⟩
  rw [scanValue_of_number hc hskip, ← List.cons_append, ← hcons, hscan, String.ofList_toList]

theorem readsBack_string {literal : String} (hliteral : IsStringBody literal.toList) :
    ReadsBack (.string literal) := by
  intro fuel text more _ h hfuel
  obtain ⟨fuel, rfl⟩ := Nat.exists_eq_add_one_of_ne_zero (Nat.ne_zero_of_lt hfuel)
  obtain ⟨rest, hskip, hrest, hlength⟩ := skipBlanks_of_string h
  refine ⟨rest, ?_, hrest, hlength⟩
  simp only [scanValue, hskip, scanString_body hliteral, List.reverse_nil, List.nil_append,
    String.ofList_toList, Option.map_some]

theorem readsBack_array_nil : ReadsBack (.array []) := by
  intro fuel text more _ h hfuel
  obtain ⟨fuel, rfl⟩ := Nat.exists_eq_add_one_of_ne_zero (Nat.ne_zero_of_lt hfuel)
  obtain ⟨inner, hskip, hinner, hlength⟩ := skipBlanks_of_parted (by decide) h
  obtain ⟨rest, hend, hrest, hlength'⟩ := skipBlanks_of_parted (by decide) hinner
  refine ⟨rest, ?_, hrest, by omega⟩
  rw [scanValue, hskip]
  simp only [List.nil_append, hend]

theorem readsBack_object_nil : ReadsBack (.object []) := by
  intro fuel text more _ h hfuel
  obtain ⟨fuel, rfl⟩ := Nat.exists_eq_add_one_of_ne_zero (Nat.ne_zero_of_lt hfuel)
  obtain ⟨inner, hskip, hinner, hlength⟩ := skipBlanks_of_parted (by decide) h
  obtain ⟨rest, hend, hrest, hlength'⟩ := skipBlanks_of_parted (by decide) hinner
  refine ⟨rest, ?_, hrest, by omega⟩
  rw [scanValue, hskip]
  simp only [List.nil_append, hend]

theorem readsBack_array {item : Json} {items : List Json} (hitem : item.WellFormed)
    (h : ItemsReadBack (item :: items)) : ReadsBack (.array (item :: items)) := by
  intro fuel text more _ htext hfuel
  obtain ⟨fuel, rfl⟩ := Nat.exists_eq_add_one_of_ne_zero (Nat.ne_zero_of_lt hfuel)
  rw [tokens, List.cons_append, List.append_assoc] at htext
  obtain ⟨inner, hskip, hinner, hlength⟩ := skipBlanks_of_parted (by decide) htext
  have hle := length_skipBlanks_le inner
  -- Behind the bracket stands the first token of the first item.
  obtain ⟨c, cs, hfirst, hblank, hc⟩ := exists_first_item hitem items
  obtain ⟨hitems, _, hskip'⟩ := parted_skipBlanks hblank
    (by rw [List.head?_append, hfirst]; rfl) hinner
  obtain ⟨rest, hscan, hrest, hlength'⟩ := h fuel _ more hitems (by omega)
  refine ⟨rest, ?_, hrest, by omega⟩
  rw [List.nil_append] at hskip
  rw [scanValue_of_items hskip hskip' hc, hscan]
  rfl

theorem readsBack_object {key : String} {value : Json} {members : List (String × Json)}
    (h : MembersReadBack ((key, value) :: members)) :
    ReadsBack (.object ((key, value) :: members)) := by
  intro fuel text more _ htext hfuel
  obtain ⟨fuel, rfl⟩ := Nat.exists_eq_add_one_of_ne_zero (Nat.ne_zero_of_lt hfuel)
  rw [tokens, List.cons_append, List.append_assoc] at htext
  obtain ⟨inner, hskip, hinner, hlength⟩ := skipBlanks_of_parted (by decide) htext
  have hle := length_skipBlanks_le inner
  -- Behind the brace stands the quote of the first key.
  have hquote : ¬ isBlank '"' := by decide
  obtain ⟨hmembers, _, hskip'⟩ := parted_skipBlanks hquote
    (by rw [List.head?_append, head?_memberTokens]; rfl) hinner
  obtain ⟨rest, hscan, hrest, hlength'⟩ := h fuel _ more hmembers (by omega)
  refine ⟨rest, ?_, hrest, by omega⟩
  rw [List.nil_append] at hskip
  rw [scanValue_of_members hskip hskip' (by decide), hscan]
  rfl

theorem closes_cons {token : List Char} (h : token ∈ [[','], [']'], ['}']])
    (more : List (List Char)) : Closes (token :: more) := by
  intro first hfirst
  rwa [← Option.some.inj hfirst]

theorem itemsReadBack_singleton {item : Json} (h : ReadsBack item) : ItemsReadBack [item] := by
  intro fuel text more htext hfuel
  obtain ⟨fuel, rfl⟩ := Nat.exists_eq_add_one_of_ne_zero (Nat.ne_zero_of_lt hfuel)
  obtain ⟨behind, hscan, hbehind, hlength⟩ :=
    h fuel text _ (closes_cons (by decide) _) htext (by omega)
  obtain ⟨rest, hskip, hrest, hlength'⟩ := skipBlanks_of_parted (by decide) hbehind
  refine ⟨rest, ?_, hrest, by omega⟩
  simp only [scanItems, hscan, bind, Option.bind, hskip, List.nil_append]

theorem itemsReadBack_cons {item next : Json} {items : List Json} (h : ReadsBack item)
    (hitems : ItemsReadBack (next :: items)) : ItemsReadBack (item :: next :: items) := by
  intro fuel text more htext hfuel
  obtain ⟨fuel, rfl⟩ := Nat.exists_eq_add_one_of_ne_zero (Nat.ne_zero_of_lt hfuel)
  rw [itemTokens_cons item (List.cons_ne_nil next items), List.append_assoc,
    List.cons_append] at htext
  obtain ⟨behind, hscan, hbehind, hlength⟩ :=
    h fuel text _ (closes_cons (by decide) _) htext (by omega)
  obtain ⟨later, hskip, hlater, hlength'⟩ := skipBlanks_of_parted (by decide) hbehind
  obtain ⟨rest, hscan', hrest, hlength''⟩ := hitems fuel later more hlater (by omega)
  refine ⟨rest, ?_, hrest, by omega⟩
  simp only [scanItems, hscan, bind, Option.bind, hskip, List.nil_append, hscan', Option.map_some]

section Members

variable {key : String} {value : Json}

/-- A member is read up to what stands behind its value. -/
theorem exists_scanned_member (h : ReadsBack value) (fuel : Nat) {text : List Char}
    {more : List (List Char)} (hmore : Closes more)
    (htext : Parted isBlank (stringToken key :: [':'] :: (value.tokens ++ more)) text)
    (hfuel : 2 * text.length < fuel) :
    ∃ behindKey behindColon behind, skipBlanks text = '"' :: (key.toList ++ '"' :: behindKey) ∧
      skipBlanks behindKey = ':' :: behindColon ∧
      scanValue fuel behindColon = some (value, behind) ∧ Parted isBlank more behind ∧
      behind.length < text.length := by
  obtain ⟨behindKey, hskip, hbehindKey, hlength⟩ := skipBlanks_of_string htext
  obtain ⟨behindColon, hskip', hbehindColon, hlength'⟩ :=
    skipBlanks_of_parted (by decide) hbehindKey
  obtain ⟨behind, hscan, hbehind, hlength''⟩ :=
    h fuel behindColon more hmore hbehindColon (by omega)
  exact ⟨behindKey, behindColon, behind, hskip, hskip', hscan, hbehind, by omega⟩

variable (hkey : IsStringBody key.toList) (h : ReadsBack value)
include hkey h

theorem membersReadBack_singleton : MembersReadBack [(key, value)] := by
  intro fuel text more htext hfuel
  obtain ⟨fuel, rfl⟩ := Nat.exists_eq_add_one_of_ne_zero (Nat.ne_zero_of_lt hfuel)
  obtain ⟨behindKey, behindColon, behind, hskip, hskip', hscan, hbehind, hlength⟩ :=
    exists_scanned_member h fuel (closes_cons (by decide) _) htext (by omega)
  obtain ⟨rest, hskip'', hrest, hlength'⟩ := skipBlanks_of_parted (by decide) hbehind
  have hscanKey := scanString_body hkey [] behindKey
  rw [List.reverse_nil, List.nil_append, String.ofList_toList] at hscanKey
  refine ⟨rest, ?_, hrest, by omega⟩
  simp only [scanMembers, hskip, hscanKey, bind, Option.bind, hskip', hscan, hskip'',
    List.nil_append]

theorem membersReadBack_cons {next : String × Json} {members : List (String × Json)}
    (hmembers : MembersReadBack (next :: members)) :
    MembersReadBack ((key, value) :: next :: members) := by
  intro fuel text more htext hfuel
  obtain ⟨fuel, rfl⟩ := Nat.exists_eq_add_one_of_ne_zero (Nat.ne_zero_of_lt hfuel)
  rw [memberTokens_cons key value (List.cons_ne_nil next members), List.append_assoc,
    List.cons_append] at htext
  obtain ⟨behindKey, behindColon, behind, hskip, hskip', hscan, hbehind, hlength⟩ :=
    exists_scanned_member h fuel (closes_cons (by decide) _) htext (by omega)
  obtain ⟨later, hskip'', hlater, hlength'⟩ := skipBlanks_of_parted (by decide) hbehind
  obtain ⟨rest, hscan', hrest, hlength''⟩ := hmembers fuel later more hlater (by omega)
  have hscanKey := scanString_body hkey [] behindKey
  rw [List.reverse_nil, List.nil_append, String.ofList_toList] at hscanKey
  refine ⟨rest, ?_, hrest, by omega⟩
  simp only [scanMembers, hskip, hscanKey, bind, Option.bind, hskip', hscan, hskip'',
    List.nil_append, hscan', Option.map_some]

end Members

mutual

theorem readsBack : ∀ v : Json, v.WellFormed → ReadsBack v
  | .null, _ => readsBack_null
  | .bool b, _ => readsBack_bool b
  | .number _, h => readsBack_number h
  | .string _, h => readsBack_string h
  | .array [], _ => readsBack_array_nil
  | .array (item :: items), h =>
    readsBack_array h.1 (itemsReadBack (item :: items) (List.cons_ne_nil _ _) h)
  | .object [], _ => readsBack_object_nil
  | .object (member :: members), h =>
    readsBack_object (membersReadBack (member :: members) (List.cons_ne_nil _ _) h)

theorem itemsReadBack : ∀ items : List Json, items ≠ [] → ItemsWellFormed items →
    ItemsReadBack items
  | [], hne, _ => absurd rfl hne
  | [item], _, h => itemsReadBack_singleton (readsBack item h.1)
  | item :: next :: items, _, h =>
    itemsReadBack_cons (readsBack item h.1)
      (itemsReadBack (next :: items) (List.cons_ne_nil _ _) h.2)

theorem membersReadBack : ∀ members : List (String × Json), members ≠ [] →
    MembersWellFormed members → MembersReadBack members
  | [], hne, _ => absurd rfl hne
  | [(_, value)], _, h => membersReadBack_singleton h.1 (readsBack value h.2.1)
  | (_, value) :: next :: members, _, h =>
    membersReadBack_cons h.1 (readsBack value h.2.1)
      (membersReadBack (next :: members) (List.cons_ne_nil _ _) h.2.2)

end

end Reading

section Taken

/-- What is read of a value is a value of the grammar with its tokens. -/
def ValueTaken (fuel : Nat) : Prop :=
  ∀ text v rest, scanValue fuel text = some (v, rest) → v.WellFormed ∧ Begins v.tokens text rest

def ItemsTaken (fuel : Nat) : Prop :=
  ∀ text items rest, scanItems fuel text = some (items, rest) →
    items ≠ [] ∧ ItemsWellFormed items ∧ Begins (itemTokens items ++ [[']']]) text rest

def MembersTaken (fuel : Nat) : Prop :=
  ∀ text members rest, scanMembers fuel text = some (members, rest) →
    members ≠ [] ∧ MembersWellFormed members ∧ Begins (memberTokens members ++ [['}']]) text rest

variable {fuel : Nat}

theorem begins_string {text inner rest : List Char} {literal : String}
    (hskip : skipBlanks text = '"' :: inner) (h : scanString [] inner = some (literal, rest)) :
    IsStringBody literal.toList ∧ Begins [stringToken literal] text rest := by
  obtain ⟨body, hbody, rfl, rfl⟩ := body_of_scanString h
  rw [List.reverse_nil, List.nil_append, String.toList_ofList]
  refine ⟨hbody, begins_token ?_⟩
  rw [hskip, stringToken, String.toList_ofList]
  simp only [List.cons_append, List.append_assoc, List.nil_append]

theorem valueTaken_succ (hitems : ItemsTaken fuel) (hmembers : MembersTaken fuel) :
    ValueTaken (fuel + 1) := by
  intro text v rest h
  unfold scanValue at h
  -- One case for each arm of the parser: the words, a string, an array, an object, a number.
  split at h
  · next hskip =>
    cases h
    exact ⟨trivial, begins_token hskip⟩
  · next hskip =>
    cases h
    exact ⟨trivial, begins_token hskip⟩
  · next hskip =>
    cases h
    exact ⟨trivial, begins_token hskip⟩
  · next hskip =>
    obtain ⟨⟨literal, _⟩, hscan, hp⟩ := Option.map_eq_some_iff.mp h
    cases hp
    exact begins_string hskip hscan
  · next hskip =>
    have hopen : Begins [['[']] _ _ := begins_token hskip
    split at h
    · next hend =>
      cases h
      exact ⟨trivial, hopen.append (begins_token hend)⟩
    · obtain ⟨⟨items, _⟩, hscan, hp⟩ := Option.map_eq_some_iff.mp h
      cases hp
      obtain ⟨_, hwell, hbegins⟩ := hitems _ _ _ hscan
      exact ⟨hwell, hopen.append hbegins.of_skipBlanks⟩
  · next hskip =>
    have hopen : Begins [['{']] _ _ := begins_token hskip
    split at h
    · next hend =>
      cases h
      exact ⟨trivial, hopen.append (begins_token hend)⟩
    · obtain ⟨⟨members, _⟩, hscan, hp⟩ := Option.map_eq_some_iff.mp h
      cases hp
      obtain ⟨_, hwell, hbegins⟩ := hmembers _ _ _ hscan
      exact ⟨hwell, hopen.append hbegins.of_skipBlanks⟩
  · obtain ⟨ds, hds, rfl, hskip⟩ := number_of_scanNumber h
    rw [WellFormed, tokens, String.toList_ofList]
    exact ⟨hds, begins_token hskip⟩

theorem itemsTaken_succ (hvalue : ValueTaken fuel) (hitems : ItemsTaken fuel) :
    ItemsTaken (fuel + 1) := by
  intro text items rest h
  unfold scanItems at h
  obtain ⟨⟨item, behind⟩, hscan, hmore⟩ := Option.bind_eq_some_iff.mp h
  obtain ⟨hitem, hbegins⟩ := hvalue _ _ _ hscan
  -- Behind an item stands a comma and more items, or the end of the array.
  dsimp only at hmore
  split at hmore
  · next hskip =>
    obtain ⟨⟨others, _⟩, hscan', hp⟩ := Option.map_eq_some_iff.mp hmore
    cases hp
    obtain ⟨hne, hothers, hbegins'⟩ := hitems _ _ _ hscan'
    have hcomma : Begins [[',']] _ _ := begins_token hskip
    refine ⟨List.cons_ne_nil _ _, ⟨hitem, hothers⟩, ?_⟩
    rw [itemTokens_cons item hne, List.append_assoc]
    exact hbegins.append (hcomma.append hbegins')
  · next hskip =>
    cases hmore
    exact ⟨List.cons_ne_nil _ _, ⟨hitem, trivial⟩, hbegins.append (begins_token hskip)⟩
  · exact nomatch hmore

theorem membersTaken_succ (hvalue : ValueTaken fuel) (hmembers : MembersTaken fuel) :
    MembersTaken (fuel + 1) := by
  intro text members rest h
  unfold scanMembers at h
  split at h
  · next hskip =>
    obtain ⟨⟨key, behindKey⟩, hscanKey, h⟩ := Option.bind_eq_some_iff.mp h
    obtain ⟨hkey, hbeginsKey⟩ := begins_string hskip hscanKey
    dsimp only at h
    split at h
    · next hskip' =>
      have hcolon : Begins [[':']] _ _ := begins_token hskip'
      obtain ⟨⟨value, behind⟩, hscan, h⟩ := Option.bind_eq_some_iff.mp h
      obtain ⟨hvalue, hbegins⟩ := hvalue _ _ _ hscan
      have hmember := hbeginsKey.append (hcolon.append hbegins)
      dsimp only at h
      split at h
      · next hskip'' =>
        obtain ⟨⟨others, _⟩, hscan', hp⟩ := Option.map_eq_some_iff.mp h
        cases hp
        obtain ⟨hne, hothers, hbegins'⟩ := hmembers _ _ _ hscan'
        have hcomma : Begins [[',']] _ _ := begins_token hskip''
        refine ⟨List.cons_ne_nil _ _, ⟨hkey, hvalue, hothers⟩, ?_⟩
        rw [memberTokens_cons key value hne, List.append_assoc]
        exact hmember.append (hcomma.append hbegins')
      · next hskip'' =>
        cases h
        exact ⟨List.cons_ne_nil _ _, ⟨hkey, hvalue, trivial⟩,
          hmember.append (begins_token hskip'')⟩
      · exact nomatch h
    · exact nomatch h
  · exact nomatch h

/-- Everything that is read is of the grammar, by induction on the fuel. -/
theorem taken (fuel : Nat) : ValueTaken fuel ∧ ItemsTaken fuel ∧ MembersTaken fuel := by
  induction fuel with
  | zero => exact ⟨nofun, nofun, nofun⟩
  | succ fuel ih =>
    obtain ⟨hvalue, hitems, hmembers⟩ := ih
    exact ⟨valueTaken_succ hitems hmembers, itemsTaken_succ hvalue hitems,
      membersTaken_succ hvalue hmembers⟩

end Taken

section Texts

variable {v : Json} {text : String}

theorem parted_of_begins {tokens : List (List Char)} {text rest : List Char}
    (h : Begins tokens text rest) (hrest : ∀ c ∈ rest, isBlank c) : Parted isBlank tokens text := by
  obtain ⟨front, rfl, hfront⟩ := h
  rw [← List.append_nil tokens]
  exact hfront.append hrest

/-- A text is read as the tree it writes, and no other text is read. -/
theorem parse?_eq_some_iff : parse? text = some v ↔ v.Written text := by
  unfold parse?
  dsimp only
  constructor
  · intro h
    split at h
    · next hscan =>
      -- What was read is of the grammar, and only blanks are left of the text.
      obtain ⟨hwell, hbegins⟩ := (taken _).1 _ _ _ hscan
      split at h
      · next hrest =>
        cases h
        rw [List.isEmpty_iff, skipBlanks, List.dropWhile_eq_nil_iff] at hrest
        exact ⟨hwell, parted_of_begins hbegins hrest⟩
      · exact nomatch h
    · exact nomatch h
  · rintro ⟨hwell, htext⟩
    -- Nothing stands behind the tokens, so nothing but blanks is left.
    rw [← List.append_nil v.tokens] at htext
    obtain ⟨rest, hscan, hrest, _⟩ :=
      readsBack v hwell (2 * text.toList.length + 2) _ [] nofun htext (by omega)
    have hend : skipBlanks rest = [] := List.dropWhile_eq_nil_iff.mpr hrest
    rw [hscan]
    dsimp only
    rw [hend]
    rfl

theorem written_unique {w : Json} (hv : v.Written text) (hw : w.Written text) : v = w :=
  Option.some.inj ((parse?_eq_some_iff.mpr hv).symm.trans (parse?_eq_some_iff.mpr hw))

end Texts

section Printing

theorem toList_quoted (literal : String) : (quoted literal).toList = stringToken literal := by
  rw [quoted, String.toList_append, String.toList_append]
  rfl

mutual

theorem toList_compact : ∀ v : Json, v.compact.toList = v.tokens.flatten
  | .null => rfl
  | .bool true => rfl
  | .bool false => rfl
  | .number literal => (List.append_nil _).symm
  | .string literal => (toList_quoted literal).trans (List.append_nil _).symm
  | .array items => by
    rw [compact, tokens, String.toList_append, String.toList_append, toList_compactItems items]
    simp
  | .object members => by
    rw [compact, tokens, String.toList_append, String.toList_append,
      toList_compactMembers members]
    simp

theorem toList_compactItems : ∀ items : List Json,
    (compactItems items).toList = (itemTokens items).flatten
  | [] => rfl
  | [item] => toList_compact item
  | item :: next :: items => by
    rw [compactItems, itemTokens, String.toList_append, String.toList_append,
      toList_compact item, toList_compactItems (next :: items)]
    · simp
    · exact nofun
    · exact nofun

theorem toList_compactMembers : ∀ members : List (String × Json),
    (compactMembers members).toList = (memberTokens members).flatten
  | [] => rfl
  | [(key, value)] => by
    rw [compactMembers, memberTokens, String.toList_append, String.toList_append, toList_quoted,
      toList_compact value]
    simp
  | (key, value) :: next :: members => by
    rw [compactMembers, memberTokens]
    · simp only [String.toList_append, toList_quoted, toList_compact value,
        toList_compactMembers (next :: members)]
      simp
    · exact nofun
    · exact nofun

end

/-- What is printed without blanks writes the tree. -/
theorem written_compact {v : Json} (hv : v.WellFormed) : v.Written v.compact := by
  refine ⟨hv, ?_⟩
  rw [toList_compact]
  exact Parted.flatten

end Printing

end SerumDex.Json
