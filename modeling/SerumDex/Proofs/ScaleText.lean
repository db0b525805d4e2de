import SerumDex.Json.Snapshot
import SerumDex.Proofs.JsonRecord

namespace SerumDex.Scale

open Json

variable {s : Scale} {v : Json}

/-- The values of the fields, in the order of their names. -/
def fieldValues (s : Scale) : List Json :=
  [.nat s.baseDecimals.toNat, .nat s.quoteDecimals.toNat, .nat s.baseLotSize.toNat,
    .nat s.quoteLotSize.toNat]

/-- Below which numbers the fields are. -/
def fieldBounds : List Nat := [UInt8.size, UInt8.size, UInt64.size, UInt64.size]

theorem wellFormed_of_mem_fieldValues : ∀ value ∈ s.fieldValues, value.WellFormed := by
  simp only [fieldValues, List.forall_mem_cons]
  exact ⟨wellFormed_nat _, wellFormed_nat _, wellFormed_nat _, wellFormed_nat _, nofun⟩

theorem plain_of_mem_fieldNames : ∀ name ∈ fieldNames, '\\' ∉ name.toList := by
  decide

theorem isStringBody_of_mem_fieldNames : ∀ name ∈ fieldNames, IsStringBody name.toList := by
  intro name hname
  apply isStringBody_of_plain
  revert name
  decide

theorem wellFormed_toJson (s : Scale) : s.toJson.WellFormed := by
  apply membersWellFormed_iff.mpr
  intro m hm
  have hm := List.of_mem_zip hm
  exact ⟨isStringBody_of_mem_fieldNames _ hm.1, wellFormed_of_mem_fieldValues _ hm.2⟩

/-- A tree is read as the scale whose fields it gives. -/
theorem ofJson?_eq_some_iff (hv : v.WellFormed) :
    ofJson? v = some s ↔ v.Gives fieldNames s.fieldValues := by
  rw [← fields?_eq_some_iff]
  unfold ofJson?
  constructor
  · intro h
    obtain ⟨values, hvalues, h⟩ := Option.bind_eq_some_iff.mp h
    rw [hvalues]
    have hwell := (fields?_eq_some_iff.mp hvalues).wellFormed hv
    split at h
    · next baseDecimals quoteDecimals baseLotSize quoteLotSize =>
      simp only [List.forall_mem_cons] at hwell
      obtain ⟨hbase, hquote, hbaseLot, hquoteLot, _⟩ := hwell
      obtain ⟨w, hw, h⟩ := Option.bind_eq_some_iff.mp h
      obtain ⟨x, hx, h⟩ := Option.bind_eq_some_iff.mp h
      obtain ⟨y, hy, h⟩ := Option.bind_eq_some_iff.mp h
      obtain ⟨z, hz, h⟩ := Option.bind_eq_some_iff.mp h
      rw [(word8?_eq_some_iff hbase).mp hw, (word8?_eq_some_iff hquote).mp hx,
        (word64?_eq_some_iff hbaseLot).mp hy, (word64?_eq_some_iff hquoteLot).mp hz,
        ← Option.some.inj h]
      rfl
    · exact nomatch h
  · intro h
    rw [h]
    simp only [fieldValues, bind, Option.bind, word8?_nat, word64?_nat]
    rfl

/-- A text is read as a scale if it writes a tree that gives the fields of the scale, and no other
text is read. -/
theorem ofText?_eq_some_iff {text : String} :
    ofText? text = some s ↔ ∃ v : Json, v.Gives fieldNames s.fieldValues ∧ v.Written text := by
  unfold ofText?
  constructor
  · intro h
    obtain ⟨v, hparse, h⟩ := Option.bind_eq_some_iff.mp h
    have hwritten := parse?_eq_some_iff.mp hparse
    exact ⟨v, (ofJson?_eq_some_iff hwritten.1).mp h, hwritten⟩
  · rintro ⟨v, hgives, hwritten⟩
    rw [parse?_eq_some_iff.mpr hwritten]
    exact (ofJson?_eq_some_iff hwritten.1).mpr hgives

theorem ofText?_text (s : Scale) : ofText? s.text = some s := by
  apply ofText?_eq_some_iff.mpr
  refine ⟨s.toJson, ?_, written_compact (wellFormed_toJson s)⟩
  have hmembers : (fieldNames.zip s.fieldValues).Perm (fieldNames.zip s.fieldValues ++ []) := by
    rw [List.append_nil]
  exact gives_of_perm plain_of_mem_fieldNames (by decide) rfl (List.forall_mem_nil _) hmembers

/-- A field is missing or given twice, or is not written as a natural number in its range, or an
array has another number of values. -/
inductive Spoiled : Json → Prop
  | missing {name : String} {members : List (String × Json)} (hname : name ∈ fieldNames)
    (hnone : valuesNamed name members = []) : Spoiled (.object members)
  | repeated {name : String} {members : List (String × Json)} (hname : name ∈ fieldNames)
    (htwice : 2 ≤ (valuesNamed name members).length) : Spoiled (.object members)
  | misfit {name : String} {bound : Nat} {value : Json} {members : List (String × Json)}
    (hfield : (name, bound) ∈ fieldNames.zip fieldBounds)
    (hvalue : value ∈ valuesNamed name members) (hmisfit : ∀ n < bound, value ≠ .nat n) :
    Spoiled (.object members)
  | miscounted {items : List Json} (hlength : items.length ≠ fieldNames.length) :
    Spoiled (.array items)
  | misfitItem {item : Json} {bound : Nat} {items : List Json}
    (hitem : (item, bound) ∈ items.zip fieldBounds) (hmisfit : ∀ n < bound, item ≠ .nat n) :
    Spoiled (.array items)

/-- Every value of a scale is a natural number in the range of its field. -/
theorem exists_nat_of_bound (s : Scale) :
    ∀ item ∈ s.fieldValues.zip fieldBounds, ∃ n < item.2, item.1 = .nat n := by
  simp only [fieldValues, fieldBounds, List.zip_cons_cons, List.forall_mem_cons]
  exact ⟨⟨_, s.baseDecimals.toNat_lt, rfl⟩, ⟨_, s.quoteDecimals.toNat_lt, rfl⟩,
    ⟨_, s.baseLotSize.toNat_lt, rfl⟩, ⟨_, s.quoteLotSize.toNat_lt, rfl⟩, nofun⟩

theorem exists_nat_of_field (s : Scale) : ∀ field ∈ fieldNames.zip fieldBounds,
    ∃ n < field.2, (field.1, .nat n) ∈ fieldNames.zip s.fieldValues := by
  simp only [fieldNames, fieldBounds, List.zip_cons_cons, List.forall_mem_cons]
  exact ⟨⟨_, s.baseDecimals.toNat_lt, .head _⟩, ⟨_, s.quoteDecimals.toNat_lt, .tail _ (.head _)⟩,
    ⟨_, s.baseLotSize.toNat_lt, .tail _ (.tail _ (.head _))⟩,
    ⟨_, s.quoteLotSize.toNat_lt, .tail _ (.tail _ (.tail _ (.head _)))⟩, nofun⟩

theorem not_gives_of_spoiled (hv : Spoiled v) (s : Scale) : ¬ v.Gives fieldNames s.fieldValues := by
  intro h
  cases hv with
  | missing hname hnone =>
    obtain ⟨value, hvalue⟩ := h.exists_value hname
    exact List.cons_ne_nil value [] (hvalue.symm.trans hnone)
  | repeated hname htwice =>
    obtain ⟨value, hvalue⟩ := h.exists_value hname
    rw [hvalue] at htwice
    exact Nat.not_succ_le_self 1 htwice
  | misfit hfield hvalue hmisfit =>
    obtain ⟨n, hn, hgiven⟩ := exists_nat_of_field s _ hfield
    rw [h.2.2 _ hgiven] at hvalue
    exact hmisfit n hn (List.mem_singleton.mp hvalue)
  | miscounted hlength =>
    obtain ⟨hcount, hitems⟩ := h
    exact hlength (hitems ▸ hcount)
  | misfitItem hitem hmisfit =>
    obtain ⟨_, rfl⟩ := h
    obtain ⟨n, hn, hvalue⟩ := exists_nat_of_bound s _ hitem
    exact hmisfit n hn hvalue

theorem ofText?_of_spoiled {text : String} (hv : Spoiled v) (htext : v.Written text) :
    ofText? text = none := by
  rw [Option.eq_none_iff_forall_ne_some]
  intro s h
  obtain ⟨w, hgives, hwritten⟩ := ofText?_eq_some_iff.mp h
  rw [written_unique hwritten htext] at hgives
  exact not_gives_of_spoiled hv s hgives

/-- A scale is read back from its own text and from every text of its fields, as an object in any
order with members of other names anywhere, or as an array, with blanks between any tokens. No text
is read that does not give the fields of a scale, and none in which they are spoiled. What is read
is written as a text that is read as the same. -/
theorem ofText?_text_round_trip :
    (∀ s, ofText? s.text = some s) ∧
    (∀ s members others text, members.Perm (fieldNames.zip s.fieldValues ++ others) →
      (∀ m ∈ others, ∃ key ∉ fieldNames, literalText? m.1 = some key) →
      (Json.object members).Written text → ofText? text = some s) ∧
    (∀ s text, (Json.array s.fieldValues).Written text → ofText? text = some s) ∧
    (∀ s text, ofText? text = some s ↔
      ∃ v : Json, v.Gives fieldNames s.fieldValues ∧ v.Written text) ∧
    (∀ v text, Spoiled v → v.Written text → ofText? text = none) ∧
    ∀ text s, ofText? text = some s → ofText? s.text = some s := by
  refine ⟨ofText?_text, ?_, ?_, fun _ _ => ofText?_eq_some_iff, fun _ _ => ofText?_of_spoiled,
    fun _ s _ => ofText?_text s⟩
  · intro s members others text hmembers hothers htext
    refine ofText?_eq_some_iff.mpr ⟨_, ?_, htext⟩
    exact gives_of_perm plain_of_mem_fieldNames (by decide) rfl hothers hmembers
  · intro s text htext
    exact ofText?_eq_some_iff.mpr ⟨_, ⟨rfl, rfl⟩, htext⟩

/-- A text is known to write a tree if what it is read as is printed like the tree. -/
theorem written_of_compact {text : String} (hv : v.WellFormed)
    (h : (parse? text).map compact = some v.compact) : v.Written text := by
  obtain ⟨w, hparse, hcompact⟩ := Option.map_eq_some_iff.mp h
  have hwritten := parse?_eq_some_iff.mp hparse
  have hprinted : w.Written v.compact := hcompact ▸ written_compact hwritten.1
  rwa [written_unique (written_compact hv) hprinted]

/-- The member of another name is no natural number, and its value holds values itself. -/
def otherMember : String × Json := ("note", .array [.null, .object [("a", .number "-1.5e3")]])

theorem wellFormed_otherMember :
    IsStringBody otherMember.1.toList ∧ otherMember.2.WellFormed := by
  have hdigit {c : Char} (hc : c.isDigit = true) : IsDigits [c] :=
    ⟨List.cons_ne_nil c [], List.forall_mem_singleton.mpr hc⟩
  have hnumber : IsNumber "-1.5e3".toList :=
    ⟨['-'], by decide, ['1', '.', '5', 'e', '3'],
      ⟨['1'], ['.', '5'], ['e', '3'], .inr ⟨hdigit rfl, by decide⟩, .inr ⟨['5'], hdigit rfl, rfl⟩,
        .inr ⟨'e', by decide, [], by decide, ['3'], hdigit rfl, rfl⟩, rfl⟩, rfl⟩
  exact ⟨isStringBody_of_plain (by decide), trivial,
    ⟨isStringBody_of_plain (by decide), hnumber, trivial⟩, trivial⟩

theorem ofText?_text_round_trip_of_reversed :
    ofText? ("\x7b \"note\":[null, \x7b\"a\":-1.5e3\x7d],\n\"quote_lot_size\" : " ++
      "18446744073709551615, \"base_lot_size\":1, \"quote_decimals\":255, \"base_decimals\":9\x7d") =
      some ⟨9, 255, 1, 18446744073709551615⟩ ∧
    ofText? " [9,255, 1,18446744073709551615]\n" = some ⟨9, 255, 1, 18446744073709551615⟩ ∧
    ofText? "[9,255,1,18446744073709551616]" = none := by
  obtain ⟨_, hobject, harray, _, hspoiled, _⟩ := ofText?_text_round_trip
  let s : Scale := ⟨9, 255, 1, 18446744073709551615⟩
  refine ⟨?_, ?_, ?_⟩
  · have hmembers : (fieldNames.zip s.fieldValues ++ [otherMember]).reverse.Perm
        (fieldNames.zip s.fieldValues ++ [otherMember]) := List.reverse_perm _
    refine hobject s _ [otherMember] _ hmembers ?_ (written_of_compact ?_ (by decide +kernel))
    · intro m hm
      rw [List.mem_singleton.mp hm]
      exact ⟨"note", by decide, literalText?_of_plain (by decide)⟩
    · apply membersWellFormed_iff.mpr
      intro m hm
      rcases List.mem_append.mp (hmembers.mem_iff.mp hm) with hm | hm
      · exact membersWellFormed_iff.mp (wellFormed_toJson s) m hm
      · rw [List.mem_singleton.mp hm]
        exact wellFormed_otherMember
  · exact harray s _ (written_of_compact (itemsWellFormed_iff.mpr wellFormed_of_mem_fieldValues)
      (by decide +kernel))
  · have hitems : (Json.array [.nat 9, .nat 255, .nat 1, .nat 18446744073709551616]).WellFormed :=
      ⟨wellFormed_nat _, wellFormed_nat _, wellFormed_nat _, wellFormed_nat _, trivial⟩
    refine hspoiled _ _ (.misfitItem (.tail _ (.tail _ (.tail _ (.head _)))) ?_)
      (written_of_compact hitems (by decide +kernel))
    intro n hn heq
    rw [← nat_injective heq] at hn
    exact absurd hn (by decide)

end SerumDex.Scale
