import SerumDex.Json.Grammar

namespace SerumDex.Json

section Strings

-- The equations of the scanner are derived here, once for all the proofs below.
attribute [local simp] scanString

theorem isHexDigit_iff {c : Char} : isHexDigit c = true ↔ IsHex c := by
  unfold isHexDigit Hex.digit? IsHex
  split
  · next h => exact ⟨fun _ => Or.inl h, fun _ => rfl⟩
  · next hdecimal =>
    split
    · next h => exact ⟨fun _ => Or.inr (Or.inl h), fun _ => rfl⟩
    · next hlower =>
      split
      · next h => exact ⟨fun _ => Or.inr (Or.inr h), fun _ => rfl⟩
      · next hupper =>
        refine ⟨nofun, ?_⟩
        rintro (h | h | h)
        · exact absurd h hdecimal
        · exact absurd h hlower
        · exact absurd h hupper

theorem simpleEscape?_isSome_iff {c : Char} :
    (simpleEscape? c).isSome = true ↔ c ∈ ['"', '\\', '/', 'b', 'f', 'n', 'r', 't'] := by
  unfold simpleEscape?
  constructor
  · intro h
    repeat' split at h
    all_goals simp_all
  · intro h
    simp only [List.mem_cons, List.not_mem_nil, or_false] at h
    rcases h with rfl | rfl | rfl | rfl | rfl | rfl | rfl | rfl <;> rfl

theorem scanString_plain {c : Char} (printable : 32 ≤ c.toNat) (no_quote : c ≠ '"')
    (no_backslash : c ≠ '\\') (acc cs : List Char) :
    scanString acc (c :: cs) = scanString (c :: acc) cs := by
  have hplain : ¬ (decide (c.toNat < 32) || decide (c = '\\')) = true := by
    rw [Bool.or_eq_true, decide_eq_true_iff, decide_eq_true_iff, not_or, Nat.not_lt]
    exact ⟨printable, no_backslash⟩
  rw [scanString, if_neg hplain]
  · exact no_quote
  · intro _ _ _ _ _ h
    exact absurd h no_backslash
  · intro _ _ h
    exact absurd h no_backslash

theorem scanString_escape {c : Char} (short : c ∈ ['"', '\\', '/', 'b', 'f', 'n', 'r', 't'])
    (acc cs : List Char) : scanString acc ('\\' :: c :: cs) = scanString (c :: '\\' :: acc) cs := by
  rw [scanString, if_pos (simpleEscape?_isSome_iff.mpr short)]
  rintro _ _ _ _ _ rfl
  exact absurd short (by decide)

theorem scanString_unit {a b c d : Char} (hex : ∀ x ∈ [a, b, c, d], IsHex x)
    (acc cs : List Char) : scanString acc ('\\' :: 'u' :: a :: b :: c :: d :: cs) =
      scanString (d :: c :: b :: a :: 'u' :: '\\' :: acc) cs := by
  simp only [List.forall_mem_cons, ← isHexDigit_iff] at hex
  obtain ⟨ha, hb, hc, hd, _⟩ := hex
  rw [scanString, ha, hb, hc, hd]
  rfl

/-- The body of a string is read up to its closing quote. -/
theorem scanString_body {body : List Char} (h : IsStringBody body) (acc rest : List Char) :
    scanString acc (body ++ '"' :: rest) = some (String.ofList (acc.reverse ++ body), rest) := by
  induction h generalizing acc with
  | nil => rw [List.nil_append, scanString, List.append_nil]
  | plain printable no_quote no_backslash _ ih =>
    rw [List.cons_append, scanString_plain printable no_quote no_backslash, ih,
      List.reverse_cons, List.append_assoc, List.singleton_append]
  | escape short _ ih =>
    rw [List.cons_append, List.cons_append, scanString_escape short, ih]
    simp only [List.reverse_cons, List.append_assoc, List.cons_append, List.nil_append]
  | unit hex _ ih =>
    simp only [List.cons_append]
    rw [scanString_unit hex, ih]
    simp only [List.reverse_cons, List.append_assoc, List.cons_append, List.nil_append]

theorem body_of_scanString {acc cs rest : List Char} {literal : String}
    (h : scanString acc cs = some (literal, rest)) :
    ∃ body, IsStringBody body ∧ cs = body ++ '"' :: rest ∧
      literal = String.ofList (acc.reverse ++ body) := by
  fun_induction scanString acc cs with
  | case1 acc cs =>
    simp only [Option.some.injEq, Prod.mk.injEq] at h
    obtain ⟨rfl, rfl⟩ := h
    exact ⟨[], .nil, rfl, by rw [List.append_nil]⟩
  | case2 acc a b c d cs hhex ih =>
    obtain ⟨body, hbody, rfl, rfl⟩ := ih h
    simp only [Bool.and_eq_true, isHexDigit_iff] at hhex
    have hunit : ∀ x ∈ [a, b, c, d], IsHex x := by
      simp only [List.forall_mem_cons]
      exact ⟨hhex.1.1.1, hhex.1.1.2, hhex.1.2, hhex.2, nofun⟩
    refine ⟨_, .unit hunit hbody, rfl, ?_⟩
    simp only [List.reverse_cons, List.append_assoc, List.cons_append, List.nil_append]
  | case3 => exact nomatch h
  | case4 acc c cs _ hsome ih =>
    obtain ⟨body, hbody, rfl, rfl⟩ := ih h
    refine ⟨_, .escape (simpleEscape?_isSome_iff.mp hsome) hbody, rfl, ?_⟩
    simp only [List.reverse_cons, List.append_assoc, List.cons_append, List.nil_append]
  | case5 => exact nomatch h
  | case6 => exact nomatch h
  | case7 acc c cs no_quote _ _ hplain ih =>
    obtain ⟨body, hbody, rfl, rfl⟩ := ih h
    rw [Bool.or_eq_true, decide_eq_true_iff, decide_eq_true_iff, not_or, Nat.not_lt] at hplain
    refine ⟨_, .plain hplain.1 no_quote hplain.2 hbody, rfl, ?_⟩
    simp only [List.reverse_cons, List.append_assoc, List.cons_append, List.nil_append]
  | case8 => exact nomatch h

end Strings

section Numbers

/-- The text does not begin with a character of a kind. -/
def NoHead (p : Char → Prop) (cs : List Char) : Prop := ∀ c ∈ cs.head?, ¬ p c

theorem NoHead.of_imp {p q : Char → Prop} {cs : List Char} (h : NoHead q cs)
    (himp : ∀ c, p c → q c) : NoHead p cs :=
  fun c hc hp => h c hc (himp c hp)

theorem NoHead.append {p : Char → Prop} {cs rest : List Char} (hcs : NoHead p cs)
    (hrest : NoHead p rest) : NoHead p (cs ++ rest) := by
  cases cs with
  | nil => exact hrest
  | cons c cs => exact hcs

/-- A character that may go on with a number. -/
def GoesOn (c : Char) : Prop := c.isDigit ∨ c ∈ ['.', 'e', 'E']

variable {cs ds rest : List Char}

theorem IsDigits.noHead {p : Char → Prop} (hds : IsDigits ds) (hp : ∀ c, p c → ¬ c.isDigit) :
    NoHead p (ds ++ rest) := by
  obtain ⟨d, ds, rfl⟩ := List.exists_cons_of_ne_nil hds.1
  intro c hc hpc
  obtain rfl : d = c := Option.some.inj hc
  exact hp d hpc (hds.2 d List.mem_cons_self)

theorem scanDigits_append (hds : IsDigits ds) (hrest : NoHead (fun c => c.isDigit) rest) :
    scanDigits (ds ++ rest) = some (ds, rest) := by
  have hnone : rest.takeWhile Char.isDigit = [] ∧ rest.dropWhile Char.isDigit = rest := by
    cases rest with
    | nil => exact ⟨rfl, rfl⟩
    | cons c rest =>
      have hc : ¬ c.isDigit := hrest c rfl
      exact ⟨List.takeWhile_cons_of_neg hc, List.dropWhile_cons_of_neg hc⟩
  have htake : (ds ++ rest).takeWhile Char.isDigit = ds := by
    rw [List.takeWhile_append_of_pos hds.2, hnone.1, List.append_nil]
  have hdrop : (ds ++ rest).dropWhile Char.isDigit = rest := by
    rw [List.dropWhile_append_of_pos hds.2, hnone.2]
  unfold scanDigits
  rw [htake, hdrop, if_neg (by simpa using hds.1)]

theorem digits_of_scanDigits (h : scanDigits cs = some (ds, rest)) :
    IsDigits ds ∧ cs = ds ++ rest := by
  unfold scanDigits at h
  dsimp only at h
  split at h
  · exact nomatch h
  · next hne =>
    simp only [Option.some.injEq, Prod.mk.injEq] at h
    obtain ⟨rfl, rfl⟩ := h
    refine ⟨⟨by simpa using hne, ?_⟩, List.takeWhile_append_dropWhile.symm⟩
    intro c hc
    exact List.all_eq_true.mp List.all_takeWhile c hc

theorem scanWhole_append (hcs : IsWhole cs) (hrest : NoHead (fun c => c.isDigit) rest) :
    scanWhole (cs ++ rest) = some (cs, rest) := by
  rcases hcs with rfl | ⟨hdigits, hzero⟩
  · rfl
  · unfold scanWhole
    split
    · next h =>
      obtain ⟨c, cs, rfl⟩ := List.exists_cons_of_ne_nil hdigits.1
      exact absurd (congrArg some (List.cons.inj h).1) hzero
    · exact scanDigits_append hdigits hrest

/-- A scan goes on behind its first character. -/
theorem scan_of_map_cons {first : Char} {scan : Option (List Char × List Char)}
    (h : scan.map (fun p => (first :: p.1, p.2)) = some (cs, rest)) :
    ∃ ds, scan = some (ds, rest) ∧ cs = first :: ds := by
  obtain ⟨⟨ds, _⟩, hscan, hp⟩ := Option.map_eq_some_iff.mp h
  cases hp
  exact ⟨ds, hscan, rfl⟩

theorem whole_of_scanWhole (h : scanWhole cs = some (ds, rest)) :
    IsWhole ds ∧ cs = ds ++ rest := by
  unfold scanWhole at h
  split at h
  · simp only [Option.some.injEq, Prod.mk.injEq] at h
    obtain ⟨rfl, rfl⟩ := h
    exact ⟨Or.inl rfl, rfl⟩
  · next hother =>
    obtain ⟨hdigits, rfl⟩ := digits_of_scanDigits h
    refine ⟨Or.inr ⟨hdigits, ?_⟩, rfl⟩
    intro hzero
    obtain ⟨ds, rfl⟩ := List.head?_eq_some_iff.mp hzero
    exact hother _ rfl

theorem scanFraction_append (hcs : IsFraction cs)
    (hrest : NoHead (fun c => c.isDigit ∨ c = '.') rest) :
    scanFraction (cs ++ rest) = some (cs, rest) := by
  rcases hcs with rfl | ⟨ds, hds, rfl⟩
  · rw [List.nil_append]
    unfold scanFraction
    split
    · exact absurd (Or.inr rfl) (hrest '.' rfl)
    · rfl
  · have hscan := scanDigits_append hds (hrest.of_imp fun _ => Or.inl)
    change (scanDigits (ds ++ rest)).map _ = _
    rw [hscan]
    rfl

theorem fraction_of_scanFraction (h : scanFraction cs = some (ds, rest)) :
    IsFraction ds ∧ cs = ds ++ rest := by
  unfold scanFraction at h
  split at h
  · obtain ⟨digits, hscan, rfl⟩ := scan_of_map_cons h
    obtain ⟨hds, rfl⟩ := digits_of_scanDigits hscan
    exact ⟨Or.inr ⟨digits, hds, rfl⟩, rfl⟩
  · cases h
    exact ⟨Or.inl rfl, rfl⟩

theorem scanSignedDigits_append {sign : List Char} (hsign : sign ∈ [[], ['+'], ['-']])
    (hds : IsDigits ds) (hrest : NoHead (fun c => c.isDigit) rest) :
    scanSignedDigits (sign ++ ds ++ rest) = some (sign ++ ds, rest) := by
  have hscan := scanDigits_append hds hrest
  simp only [List.mem_cons, List.not_mem_nil, or_false] at hsign
  rcases hsign with rfl | rfl | rfl
  · have hunsigned : NoHead (fun c => c = '+' ∨ c = '-') (ds ++ rest) := by
      apply hds.noHead
      rintro c (rfl | rfl) <;> decide
    rw [List.nil_append]
    unfold scanSignedDigits
    split
    · next h => exact absurd (Or.inl rfl) (hunsigned '+' (by rw [h]; rfl))
    · next h => exact absurd (Or.inr rfl) (hunsigned '-' (by rw [h]; rfl))
    · exact hscan
  · change (scanDigits (ds ++ rest)).map _ = _
    rw [hscan]
    rfl
  · change (scanDigits (ds ++ rest)).map _ = _
    rw [hscan]
    rfl

theorem signed_of_scanSignedDigits (h : scanSignedDigits cs = some (ds, rest)) :
    ∃ sign ∈ [[], ['+'], ['-']], ∃ digits, IsDigits digits ∧ ds = sign ++ digits ∧
      cs = ds ++ rest := by
  unfold scanSignedDigits at h
  split at h
  · obtain ⟨digits, hscan, rfl⟩ := scan_of_map_cons h
    obtain ⟨hds, rfl⟩ := digits_of_scanDigits hscan
    exact ⟨['+'], by decide, digits, hds, rfl, rfl⟩
  · obtain ⟨digits, hscan, rfl⟩ := scan_of_map_cons h
    obtain ⟨hds, rfl⟩ := digits_of_scanDigits hscan
    exact ⟨['-'], by decide, digits, hds, rfl, rfl⟩
  · obtain ⟨hds, rfl⟩ := digits_of_scanDigits h
    exact ⟨[], by decide, ds, hds, rfl, rfl⟩

theorem scanExponent_append (hcs : IsExponent cs) (hrest : NoHead GoesOn rest) :
    scanExponent (cs ++ rest) = some (cs, rest) := by
  rcases hcs with rfl | ⟨letter, hletter, sign, hsign, ds, hds, rfl⟩
  · rw [List.nil_append]
    unfold scanExponent
    split
    · exact absurd (Or.inr (by decide)) (hrest 'e' rfl)
    · exact absurd (Or.inr (by decide)) (hrest 'E' rfl)
    · rfl
  · have hscan := scanSignedDigits_append hsign hds (hrest.of_imp fun _ => Or.inl)
    simp only [List.mem_cons, List.not_mem_nil, or_false] at hletter
    rcases hletter with rfl | rfl
    · change (scanSignedDigits (sign ++ ds ++ rest)).map _ = _
      rw [hscan]
      rfl
    · change (scanSignedDigits (sign ++ ds ++ rest)).map _ = _
      rw [hscan]
      rfl

theorem exponent_of_scanExponent (h : scanExponent cs = some (ds, rest)) :
    IsExponent ds ∧ cs = ds ++ rest := by
  unfold scanExponent at h
  split at h
  · obtain ⟨_, hscan, rfl⟩ := scan_of_map_cons h
    obtain ⟨sign, hsign, digits, hds, rfl, rfl⟩ := signed_of_scanSignedDigits hscan
    exact ⟨Or.inr ⟨'e', by decide, sign, hsign, digits, hds, rfl⟩, rfl⟩
  · obtain ⟨_, hscan, rfl⟩ := scan_of_map_cons h
    obtain ⟨sign, hsign, digits, hds, rfl, rfl⟩ := signed_of_scanSignedDigits hscan
    exact ⟨Or.inr ⟨'E', by decide, sign, hsign, digits, hds, rfl⟩, rfl⟩
  · cases h
    exact ⟨Or.inl rfl, rfl⟩

theorem IsFraction.noHead (hcs : IsFraction cs) : NoHead (fun c => c.isDigit) cs := by
  rcases hcs with rfl | ⟨ds, _, rfl⟩
  · exact nofun
  · intro c hc
    rw [← Option.some.inj hc]
    decide

theorem IsExponent.noHead (hcs : IsExponent cs) :
    NoHead (fun c => c.isDigit ∨ c = '.') cs := by
  rcases hcs with rfl | ⟨letter, hletter, sign, _, ds, _, rfl⟩
  · exact nofun
  · intro c hc
    rw [← Option.some.inj hc]
    simp only [List.mem_cons, List.not_mem_nil, or_false] at hletter
    rcases hletter with rfl | rfl <;> decide

theorem scanUnsigned_append (hcs : IsUnsigned cs) (hrest : NoHead GoesOn rest) :
    scanUnsigned (cs ++ rest) = some (cs, rest) := by
  obtain ⟨whole, fraction, exponent, hwhole, hfraction, hexponent, rfl⟩ := hcs
  -- Each part ends where it does because what follows it does not begin with one of its characters.
  have hpoint : NoHead (fun c => c.isDigit ∨ c = '.') rest := by
    apply hrest.of_imp
    rintro c (hc | rfl)
    · exact Or.inl hc
    · exact Or.inr (by decide)
  have hbehindFraction := hexponent.noHead.append hpoint
  have hbehindWhole :=
    hfraction.noHead.append (hbehindFraction.of_imp fun _ => Or.inl)
  have hscanWhole := scanWhole_append hwhole hbehindWhole
  have hscanFraction := scanFraction_append hfraction hbehindFraction
  have hscanExponent := scanExponent_append hexponent hrest
  unfold scanUnsigned
  rw [List.append_assoc, List.append_assoc, hscanWhole]
  simp only [bind, Option.bind, hscanFraction, hscanExponent, List.append_assoc]
  rfl

theorem unsigned_of_scanUnsigned (h : scanUnsigned cs = some (ds, rest)) :
    IsUnsigned ds ∧ cs = ds ++ rest := by
  unfold scanUnsigned at h
  obtain ⟨⟨whole, behindWhole⟩, hfirst, hmore⟩ := Option.bind_eq_some_iff.mp h
  obtain ⟨⟨fraction, behindFraction⟩, hsecond, hlast⟩ := Option.bind_eq_some_iff.mp hmore
  obtain ⟨⟨exponent, _⟩, hthird, hdone⟩ := Option.bind_eq_some_iff.mp hlast
  obtain ⟨hwhole, rfl⟩ := whole_of_scanWhole hfirst
  obtain ⟨hfraction, rfl⟩ := fraction_of_scanFraction hsecond
  obtain ⟨hexponent, rfl⟩ := exponent_of_scanExponent hthird
  cases hdone
  refine ⟨⟨whole, fraction, exponent, hwhole, hfraction, hexponent, rfl⟩, ?_⟩
  simp only [List.append_assoc]

theorem IsUnsigned.exists_cons (hcs : IsUnsigned cs) : ∃ c rest, cs = c :: rest ∧ c.isDigit := by
  obtain ⟨whole, fraction, exponent, hwhole, _, _, rfl⟩ := hcs
  rcases hwhole with rfl | ⟨⟨hne, hdigits⟩, _⟩
  · exact ⟨'0', _, rfl, rfl⟩
  · obtain ⟨c, whole, rfl⟩ := List.exists_cons_of_ne_nil hne
    exact ⟨c, _, rfl, hdigits c List.mem_cons_self⟩

/-- A number is read as far as it goes. -/
theorem scanNumber_append (hcs : IsNumber cs) (hrest : NoHead GoesOn rest) :
    scanNumber (cs ++ rest) = some (.number (String.ofList cs), rest) := by
  obtain ⟨sign, hsign, ds, hds, rfl⟩ := hcs
  have hscan := scanUnsigned_append hds hrest
  simp only [List.mem_cons, List.not_mem_nil, or_false] at hsign
  rcases hsign with rfl | rfl
  · rw [List.nil_append]
    unfold scanNumber
    split
    · next h =>
      obtain ⟨c, ds, rfl, hdigit⟩ := hds.exists_cons
      rw [(List.cons.inj h).1] at hdigit
      exact absurd hdigit (by decide)
    · rw [hscan]
      rfl
  · change (scanUnsigned (ds ++ rest)).map _ = _
    rw [hscan]
    rfl

theorem number_of_scanNumber {v : Json} (h : scanNumber cs = some (v, rest)) :
    ∃ ds, IsNumber ds ∧ v = .number (String.ofList ds) ∧ cs = ds ++ rest := by
  unfold scanNumber at h
  split at h
  · obtain ⟨⟨ds, rest'⟩, hscan, hp⟩ := Option.map_eq_some_iff.mp h
    obtain ⟨hds, rfl⟩ := unsigned_of_scanUnsigned hscan
    cases hp
    exact ⟨_, ⟨['-'], by decide, ds, hds, rfl⟩, rfl, rfl⟩
  · obtain ⟨⟨ds, rest'⟩, hscan, hp⟩ := Option.map_eq_some_iff.mp h
    obtain ⟨hds, rfl⟩ := unsigned_of_scanUnsigned hscan
    cases hp
    exact ⟨_, ⟨[], by decide, ds, hds, rfl⟩, rfl, rfl⟩

end Numbers

end SerumDex.Json
