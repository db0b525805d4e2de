import SerumDex.Json.Record
import SerumDex.Proofs.JsonText

namespace SerumDex.Json

section Numerals

theorem exists_digitChar {c : Char} (hc : c.isDigit) :
    ∃ d < 10, c.toNat - '0'.toNat = d ∧ Nat.digitChar d = c := by
  have hrange : 48 ≤ c.toNat ∧ c.toNat ≤ 57 := by
    simpa [Char.isDigit, UInt32.le_iff_toNat_le] using hc
  refine ⟨c.toNat - 48, by omega, rfl, Char.toNat_inj.mp ?_⟩
  rw [Nat.toNat_digitChar_of_lt_ten (by omega)]
  omega

theorem decimalValue_toDigits (n : Nat) : decimalValue (Nat.toDigits 10 n) = n := by
  have hfold : decimalValue (Nat.toDigits 10 n) = Nat.ofDigitChars 10 (Nat.toDigits 10 n) 0 := by
    simp only [decimalValue, Nat.ofDigitChars_eq_foldl, Nat.mul_comm]
  rw [hfold, Nat.ofDigitChars_ten_toDigits]

theorem head?_toDigits {n : Nat} (hn : 0 < n) : (Nat.toDigits 10 n).head? ≠ some '0' := by
  induction n using Nat.strongRecOn with
  | ind n ih =>
    by_cases hsmall : n < 10
    · have hdigits : ∀ d < 10, 0 < d → Nat.digitChar d ≠ '0' := by decide
      rw [Nat.toDigits_of_lt_base hsmall]
      exact fun h => hdigits n hsmall hn (Option.some.inj h)
    · -- The first digit is the one of the number without its last digit.
      have hfront : 0 < n / 10 := by omega
      have hsplit := Nat.toDigits_append_toDigits (b := 10) (by decide) hfront
        (Nat.mod_lt n (by decide))
      rw [Nat.div_add_mod] at hsplit
      rw [← hsplit, List.head?_append]
      intro h
      rcases Option.or_eq_some_iff.mp h with h | ⟨h, _⟩
      · exact ih (n / 10) (by omega) hfront h
      · exact Nat.toDigits_ne_nil (List.head?_eq_none_iff.mp h)

theorem isWhole_toDigits (n : Nat) : IsWhole (Nat.toDigits 10 n) := by
  obtain rfl | hn := Nat.eq_zero_or_pos n
  · exact Or.inl rfl
  · exact Or.inr ⟨⟨Nat.toDigits_ne_nil,
      fun _ hc => Nat.isDigit_of_mem_toDigits (by decide) (by decide) hc⟩, head?_toDigits hn⟩

/-- Digits behind a numeral go on with it. -/
theorem toDigits_append_digits {n : Nat} (hn : 0 < n) {ds : List Char}
    (hds : ∀ c ∈ ds, c.isDigit) : Nat.toDigits 10 n ++ ds =
      Nat.toDigits 10 (ds.foldl (fun n c => n * 10 + (c.toNat - '0'.toNat)) n) := by
  induction ds generalizing n with
  | nil => exact List.append_nil _
  | cons c ds ih =>
    obtain ⟨hc, hrest⟩ := List.forall_mem_cons.mp hds
    obtain ⟨d, hd, hvalue, rfl⟩ := exists_digitChar hc
    have hstep := Nat.toDigits_append_toDigits (b := 10) (by decide) hn hd
    rw [Nat.toDigits_of_lt_base hd, Nat.mul_comm] at hstep
    rw [List.foldl_cons, hvalue, ← ih (by omega) hrest, ← hstep, List.append_assoc,
      List.singleton_append]

/-- Digits without a leading zero are the numeral of their value. -/
theorem toDigits_decimalValue {ds : List Char} (hds : IsWhole ds) :
    Nat.toDigits 10 (decimalValue ds) = ds := by
  rcases hds with rfl | ⟨⟨hne, hdigits⟩, hhead⟩
  · rfl
  · obtain ⟨c, ds, rfl⟩ := List.exists_cons_of_ne_nil hne
    obtain ⟨hc, hrest⟩ := List.forall_mem_cons.mp hdigits
    obtain ⟨d, hd, hvalue, rfl⟩ := exists_digitChar hc
    have hpos : 0 < d := by
      refine Nat.pos_of_ne_zero ?_
      rintro rfl
      exact hhead rfl
    rw [decimalValue, List.foldl_cons, hvalue, Nat.zero_mul, Nat.zero_add,
      ← toDigits_append_digits hpos hrest, Nat.toDigits_of_lt_base hd, List.singleton_append]

theorem isWhole_of_digits {cs : List Char} (hcs : IsNumber cs) (hdigits : ∀ c ∈ cs, c.isDigit) :
    IsWhole cs := by
  obtain ⟨sign, hsign, ds, hds, rfl⟩ := hcs
  obtain ⟨whole, fraction, exponent, hwhole, hfraction, hexponent, rfl⟩ := hds
  simp only [List.forall_mem_append] at hdigits
  obtain ⟨hsignDigits, ⟨_, hfractionDigits⟩, hexponentDigits⟩ := hdigits
  -- A sign, a point and the letter of an exponent are no digits, so none of them is there.
  obtain rfl : sign = [] := by
    simp only [List.mem_cons, List.not_mem_nil, or_false] at hsign
    rcases hsign with rfl | rfl
    · rfl
    · exact absurd (hsignDigits '-' List.mem_cons_self) (by decide)
  obtain rfl : fraction = [] := by
    rcases hfraction with rfl | ⟨ds, _, rfl⟩
    · rfl
    · exact absurd (hfractionDigits '.' List.mem_cons_self) (by decide)
  obtain rfl : exponent = [] := by
    rcases hexponent with rfl | ⟨letter, hletter, sign, _, ds, _, rfl⟩
    · rfl
    · have hletterDigit := hexponentDigits letter List.mem_cons_self
      simp only [List.mem_cons, List.not_mem_nil, or_false] at hletter
      rcases hletter with rfl | rfl <;> exact absurd hletterDigit (by decide)
  rwa [List.append_nil, List.append_nil, List.nil_append]

theorem isNumber_of_isWhole {cs : List Char} (hcs : IsWhole cs) : IsNumber cs :=
  ⟨[], List.mem_cons_self, cs,
    ⟨cs, [], [], hcs, Or.inl rfl, Or.inl rfl, by rw [List.append_nil, List.append_nil]⟩, rfl⟩

theorem wellFormed_nat (n : Nat) : (nat n).WellFormed := by
  rw [nat, WellFormed, Nat.toList_repr]
  exact isNumber_of_isWhole (isWhole_toDigits n)

/-- A natural number is written by its numeral only. -/
theorem asNat?_eq_some_iff {v : Json} (hv : v.WellFormed) {n : Nat} :
    v.asNat? = some n ↔ v = nat n := by
  constructor
  · intro h
    unfold asNat? at h
    split at h
    · next literal =>
      dsimp only at h
      split at h
      · next hdigits =>
        rw [Bool.and_eq_true, List.all_eq_true] at hdigits
        have hwhole := isWhole_of_digits hv hdigits.1
        rw [nat, ← Option.some.inj h, Nat.repr_eq_ofList_toDigits, toDigits_decimalValue hwhole,
          String.ofList_toList]
      · exact nomatch h
    · exact nomatch h
  · rintro rfl
    have hdigits : (Nat.toDigits 10 n).all Char.isDigit = true :=
      List.all_eq_true.mpr fun c hc => Nat.isDigit_of_mem_toDigits (by decide) (by decide) hc
    have hne : (Nat.toDigits 10 n).isEmpty = false := by
      rw [List.isEmpty_eq_false_iff]
      exact Nat.toDigits_ne_nil
    simp only [nat, asNat?, Nat.toList_repr, hdigits, hne, decimalValue_toDigits]
    rfl

theorem natBelow?_eq_some_iff {v : Json} (hv : v.WellFormed) {bound n : Nat} :
    v.natBelow? bound = some n ↔ v = nat n ∧ n < bound := by
  unfold natBelow?
  rw [← asNat?_eq_some_iff hv]
  constructor
  · intro h
    obtain ⟨m, hm, hbound⟩ := Option.bind_eq_some_iff.mp h
    split at hbound
    · next hlt =>
      obtain rfl := Option.some.inj hbound
      exact ⟨hm, hlt⟩
    · exact nomatch hbound
  · rintro ⟨hn, hlt⟩
    rw [hn]
    exact if_pos hlt

theorem nat_injective {m n : Nat} (h : nat m = nat n) : m = n :=
  Option.some.inj <| ((asNat?_eq_some_iff (wellFormed_nat m)).mpr rfl).symm.trans
    ((asNat?_eq_some_iff (wellFormed_nat m)).mpr h)

/-- A word is read from the numeral of its number. -/
theorem map_natBelow?_eq_some_iff {Word : Type} {toNat : Word → Nat} {ofNat : Nat → Word}
    {bound : Nat} (hbound : ∀ w, toNat w < bound) (hofNat : ∀ w, ofNat (toNat w) = w)
    (htoNat : ∀ n < bound, toNat (ofNat n) = n) {v : Json} (hv : v.WellFormed) {w : Word} :
    (v.natBelow? bound).map ofNat = some w ↔ v = nat (toNat w) := by
  rw [Option.map_eq_some_iff]
  constructor
  · rintro ⟨n, hn, rfl⟩
    obtain ⟨rfl, hlt⟩ := (natBelow?_eq_some_iff hv).mp hn
    rw [htoNat n hlt]
  · rintro rfl
    exact ⟨toNat w, (natBelow?_eq_some_iff hv).mpr ⟨rfl, hbound w⟩, hofNat w⟩

theorem word8?_eq_some_iff {v : Json} (hv : v.WellFormed) {w : UInt8} :
    v.word8? = some w ↔ v = nat w.toNat :=
  map_natBelow?_eq_some_iff UInt8.toNat_lt (fun _ => UInt8.ofNat_toNat)
    (fun _ => UInt8.toNat_ofNat_of_lt') hv

theorem word64?_eq_some_iff {v : Json} (hv : v.WellFormed) {w : UInt64} :
    v.word64? = some w ↔ v = nat w.toNat :=
  map_natBelow?_eq_some_iff UInt64.toNat_lt (fun _ => UInt64.ofNat_toNat)
    (fun _ => UInt64.toNat_ofNat_of_lt') hv

theorem word8?_nat (w : UInt8) : (nat w.toNat).word8? = some w :=
  (word8?_eq_some_iff (wellFormed_nat _)).mpr rfl

theorem word64?_nat (w : UInt64) : (nat w.toNat).word64? = some w :=
  (word64?_eq_some_iff (wellFormed_nat _)).mpr rfl

end Numerals

section Keys

theorem unescape?_of_plain {cs : List Char} (hcs : '\\' ∉ cs) (acc : List Char) :
    unescape? acc cs = some (acc.reverse ++ cs) := by
  induction cs generalizing acc with
  | nil => rw [unescape?, List.append_nil]
  | cons c cs ih =>
    obtain ⟨hc, hrest⟩ := not_or.mp (mt List.mem_cons.mpr hcs)
    rw [unescape?, if_neg (Ne.symm hc), ih hrest, List.reverse_cons, List.append_assoc,
      List.singleton_append]
    all_goals
      intros
      exact hc (Eq.symm ‹_›)

/-- A literal without escapes says what it is. -/
theorem literalText?_of_plain {literal : String} (h : '\\' ∉ literal.toList) :
    literalText? literal = some literal := by
  rw [literalText?, unescape?_of_plain h, List.reverse_nil, List.nil_append, Option.map_some,
    String.ofList_toList]

theorem isStringBody_of_plain {cs : List Char}
    (h : cs.all (fun c => 32 ≤ c.toNat && c != '"' && c != '\\') = true) : IsStringBody cs := by
  induction cs with
  | nil => exact .nil
  | cons c cs ih =>
    simp only [List.all_cons, Bool.and_eq_true, decide_eq_true_iff, bne_iff_ne] at h
    exact .plain h.1.1.1 h.1.1.2 h.1.2 (ih h.2)

end Keys

section Parts

theorem itemsWellFormed_iff {items : List Json} :
    ItemsWellFormed items ↔ ∀ item ∈ items, item.WellFormed := by
  induction items with
  | nil => exact ⟨fun _ => nofun, fun _ => trivial⟩
  | cons item items ih => rw [ItemsWellFormed, ih, List.forall_mem_cons]

theorem membersWellFormed_iff {members : List (String × Json)} :
    MembersWellFormed members ↔
      ∀ m ∈ members, IsStringBody m.1.toList ∧ m.2.WellFormed := by
  induction members with
  | nil => exact ⟨fun _ => nofun, fun _ => trivial⟩
  | cons m members ih => rw [MembersWellFormed, ih, List.forall_mem_cons, and_assoc]

end Parts

section Records

/-- The values of the members with a name. -/
def valuesNamed (name : String) (members : List (String × Json)) : List Json :=
  (members.filter fun m => literalText? m.1 == some name).map Prod.snd

/-- The tree gives a record the values of its fields, as the array of them or as an object whose
keys can be read and that gives each field once. -/
def Gives (names : List String) (values : List Json) (v : Json) : Prop :=
  values.length = names.length ∧ match v with
    | .array items => items = values
    | .object members => (∀ m ∈ members, (literalText? m.1).isSome) ∧
      ∀ field ∈ names.zip values, valuesNamed field.1 members = [field.2]
    | _ => False

section Fields

variable {names : List String} {values : List Json}

theorem onlyValue?_eq_some_iff {members : List (Option String × Json)} {key : String} {v : Json} :
    onlyValue? members key = some v ↔ valuesOf key members = [v] := by
  unfold onlyValue?
  split
  · next value hvalue =>
    rw [hvalue, Option.some.injEq, List.cons.injEq, eq_self, and_true]
  · next hother => exact ⟨nofun, fun h => absurd h (hother v)⟩

theorem mapM_onlyValue?_eq_some_iff {members : List (Option String × Json)} :
    names.mapM (onlyValue? members) = some values ↔ values.length = names.length ∧
      ∀ field ∈ names.zip values, valuesOf field.1 members = [field.2] := by
  induction names generalizing values with
  | nil =>
    rw [List.mapM_nil, List.length_nil, List.length_eq_zero_iff, List.zip_nil_left]
    exact ⟨fun h => ⟨(Option.some.inj h).symm, nofun⟩, fun h => congrArg some h.1.symm⟩
  | cons name names ih =>
    rw [List.mapM_cons]
    constructor
    · intro h
      obtain ⟨value, hvalue, h⟩ := Option.bind_eq_some_iff.mp h
      obtain ⟨others, hothers, h⟩ := Option.bind_eq_some_iff.mp h
      obtain rfl := Option.some.inj h
      obtain ⟨hlength, hfields⟩ := ih.mp hothers
      exact ⟨congrArg Nat.succ hlength,
        List.forall_mem_cons.mpr ⟨onlyValue?_eq_some_iff.mp hvalue, hfields⟩⟩
    · rintro ⟨hlength, hfields⟩
      obtain ⟨value, others, rfl⟩ := List.exists_cons_of_length_eq_add_one hlength
      obtain ⟨hvalue, hothers⟩ := List.forall_mem_cons.mp hfields
      rw [onlyValue?_eq_some_iff.mpr hvalue, ih.mpr ⟨Nat.succ.inj hlength, hothers⟩]
      rfl

theorem valuesOf_decoded (name : String) (members : List (String × Json)) :
    valuesOf name (members.map fun m => (literalText? m.1, m.2)) = valuesNamed name members := by
  unfold valuesOf valuesNamed
  rw [List.filter_map, List.map_map]
  rfl

/-- The fields that are read are what the tree gives the record. -/
theorem fields?_eq_some_iff {v : Json} : v.fields? names = some values ↔ v.Gives names values := by
  unfold fields? Gives
  split
  · next items =>
    rw [Option.ite_none_right_eq_some, Option.some.injEq]
    constructor
    · rintro ⟨hlength, rfl⟩
      exact ⟨hlength, rfl⟩
    · rintro ⟨hlength, rfl⟩
      exact ⟨hlength, rfl⟩
  · next members =>
    rw [Option.ite_none_right_eq_some, mapM_onlyValue?_eq_some_iff, List.all_map, List.all_eq_true]
    simp only [valuesOf_decoded]
    exact and_left_comm
  · next harray hobject =>
    refine ⟨nofun, fun h => ?_⟩
    cases v with
    | array items => exact absurd rfl (harray items)
    | object members => exact absurd rfl (hobject members)
    | _ => exact h.2.elim

theorem mem_of_valuesNamed {name : String} {members : List (String × Json)} {value : Json}
    (h : value ∈ valuesNamed name members) : ∃ m ∈ members, m.2 = value := by
  obtain ⟨m, hm, hvalue⟩ := List.mem_map.mp h
  exact ⟨m, (List.mem_filter.mp hm).1, hvalue⟩

theorem Gives.wellFormed {v : Json} (h : v.Gives names values) (hv : v.WellFormed) :
    ∀ value ∈ values, value.WellFormed := by
  intro value hvalue
  obtain ⟨hlength, h⟩ := h
  cases v with
  | array items =>
    subst h
    exact itemsWellFormed_iff.mp hv value hvalue
  | object members =>
    rw [← List.map_snd_zip (Nat.le_of_eq hlength)] at hvalue
    obtain ⟨field, hfield, rfl⟩ := List.mem_map.mp hvalue
    obtain ⟨m, hm, hgiven⟩ := mem_of_valuesNamed (h.2 field hfield ▸ List.mem_cons_self)
    have hwell := (membersWellFormed_iff.mp hv m hm).2
    rwa [hgiven] at hwell
  | _ => exact h.elim

theorem Gives.exists_value {name : String} {members : List (String × Json)}
    (h : (object members).Gives names values) (hname : name ∈ names) :
    ∃ value, valuesNamed name members = [value] := by
  obtain ⟨hlength, _, hfields⟩ := h
  rw [← List.map_fst_zip (Nat.le_of_eq hlength.symm)] at hname
  obtain ⟨field, hfield, rfl⟩ := List.mem_map.mp hname
  exact ⟨field.2, hfields field hfield⟩

end Fields

section Order

variable {name : String} {members others : List (String × Json)}

theorem valuesNamed_append : valuesNamed name (members ++ others) =
    valuesNamed name members ++ valuesNamed name others := by
  unfold valuesNamed
  rw [List.filter_append, List.map_append]

theorem valuesNamed_singleton (hplain : '\\' ∉ name.toList) (value : Json) :
    valuesNamed name [(name, value)] = [value] := by
  have hname : ([(name, value)].filter fun m => literalText? m.1 == some name) =
      [(name, value)] := by
    rw [List.filter_eq_self, List.forall_mem_singleton, literalText?_of_plain hplain]
    exact beq_self_eq_true _
  rw [valuesNamed, hname]
  rfl

theorem valuesNamed_eq_nil (h : ∀ m ∈ members, literalText? m.1 ≠ some name) :
    valuesNamed name members = [] := by
  unfold valuesNamed
  rw [List.map_eq_nil_iff, List.filter_eq_nil_iff]
  intro m hm
  rw [beq_iff_eq]
  exact h m hm

variable {names : List String} {values : List Json} (hplain : ∀ name ∈ names, '\\' ∉ name.toList)
  (hnames : names.Nodup)
include hplain hnames

/-- Under each name of a record written in order stands its value alone. -/
theorem valuesNamed_zip : ∀ field ∈ names.zip values,
    valuesNamed field.1 (names.zip values) = [field.2] := by
  induction names generalizing values with
  | nil => exact nofun
  | cons name names ih =>
    obtain ⟨hname, hrest⟩ := List.forall_mem_cons.mp hplain
    obtain ⟨hnew, hnodup⟩ := List.nodup_cons.mp hnames
    cases values with
    | nil => exact nofun
    | cons value values =>
      rw [List.zip_cons_cons, List.forall_mem_cons]
      constructor
      · -- No later member has this name, since no name is there twice.
        have hnone : valuesNamed name (names.zip values) = [] := by
          apply valuesNamed_eq_nil
          intro m hm
          have hm := (List.of_mem_zip hm).1
          rw [literalText?_of_plain (hrest _ hm)]
          rintro ⟨⟩
          exact hnew hm
        rw [← List.singleton_append, valuesNamed_append, valuesNamed_singleton hname, hnone]
        rfl
      · intro field hfield
        have hnone : valuesNamed field.1 [(name, value)] = [] := by
          apply valuesNamed_eq_nil
          intro m hm
          rw [List.mem_singleton.mp hm, literalText?_of_plain hname]
          intro h
          rw [Option.some.inj h] at hnew
          exact hnew (List.of_mem_zip hfield).1
        rw [← List.singleton_append, valuesNamed_append, hnone, List.nil_append]
        exact ih hrest hnodup field hfield

/-- The members of a record may stand in any order and among others with other names. -/
theorem gives_of_perm (hlength : values.length = names.length)
    (hothers : ∀ m ∈ others, ∃ key ∉ names, literalText? m.1 = some key)
    (hmembers : members.Perm (names.zip values ++ others)) :
    (object members).Gives names values := by
  refine ⟨hlength, ?_, ?_⟩
  · intro m hm
    rcases List.mem_append.mp (hmembers.mem_iff.mp hm) with hm | hm
    · rw [literalText?_of_plain (hplain _ (List.of_mem_zip hm).1)]
      rfl
    · obtain ⟨key, _, hkey⟩ := hothers m hm
      rw [hkey]
      rfl
  · intro field hfield
    -- The other members give this field nothing, and a reordering of one value is that value.
    have hnone : valuesNamed field.1 others = [] := by
      apply valuesNamed_eq_nil
      intro m hm
      obtain ⟨key, hkey, htext⟩ := hothers m hm
      rw [htext]
      intro h
      rw [Option.some.inj h] at hkey
      exact hkey (List.of_mem_zip hfield).1
    have hperm : (valuesNamed field.1 members).Perm
        (valuesNamed field.1 (names.zip values ++ others)) := (hmembers.filter _).map _
    rw [valuesNamed_append, valuesNamed_zip hplain hnames field hfield, hnone,
      List.append_nil] at hperm
    exact List.perm_singleton.mp hperm

end Order

end Records

end SerumDex.Json
