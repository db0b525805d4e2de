import SerumDex.Proofs.BuildResult
import SerumDex.Text.Base64

namespace SerumDex.Base64

section Symbols

variable {b : UInt8} {n offset : Nat}

theorem bits?_symbol (hn : n < 64) : bits? (symbol n) = some n := by
  have hall : ∀ k : Fin 64, bits? (symbol k) = some k.val := by decide
  exact hall ⟨n, hn⟩

theorem symbol_ne_pad (hn : n < 64) : symbol n ≠ pad := by
  intro h
  have hbits : bits? (symbol n) = some n := bits?_symbol hn
  rw [h] at hbits
  exact nomatch hbits

theorem symbol_of_bits? (h : bits? b = some n) : n < 64 ∧ symbol n = b := by
  have hall : ∀ k : Fin 256,
      (bits? (UInt8.ofNat k)).all fun m => m < 64 ∧ symbol m = UInt8.ofNat k := by
    decide +kernel
  have hb := hall ⟨b.toNat, b.toNat_lt⟩
  rw [UInt8.ofNat_toNat, h] at hb
  exact of_decide_eq_true hb

theorem bitsAt_symbol_bind (hn : n < 64) (f : Nat → Except Fault Bytes) :
    (bitsAt offset (symbol n) >>= f) = f n := by
  rw [bitsAt, bits?_symbol hn]
  rfl

theorem symbol_of_bitsAt (h : bitsAt offset b = .ok n) : n < 64 ∧ symbol n = b := by
  unfold bitsAt at h
  cases hbits : bits? b with
  | some m =>
    rw [hbits] at h
    exact symbol_of_bits? (hbits.trans (congrArg some (Except.ok.inj h)))
  | none =>
    rw [hbits] at h
    exact nomatch h

end Symbols

section Groups

variable {n : Nat}

theorem encode_threeBytes (hn : n < 16777216) (rest : Bytes) :
    encode (threeBytes n ++ rest) = symbol (n / 262144) :: symbol (n / 4096 % 64) ::
      symbol (n / 64 % 64) :: symbol (n % 64) :: encode rest := by
  have hvalue : ((UInt8.ofNat (n / 65536)).toNat * 256 +
      (UInt8.ofNat (n / 256 % 256)).toNat) * 256 + (UInt8.ofNat (n % 256)).toNat = n := by
    simp only [UInt8.toNat_ofNat']
    omega
  change encode (_ :: _ :: _ :: rest) = _
  rw [encode, hvalue]

theorem threeBytes_value (a b c : UInt8) :
    threeBytes ((a.toNat * 256 + b.toNat) * 256 + c.toNat) = [a, b, c] := by
  have ha := a.toNat_lt
  have hb := b.toNat_lt
  have hc := c.toNat_lt
  have hfirst : ((a.toNat * 256 + b.toNat) * 256 + c.toNat) / 65536 = a.toNat := by omega
  have hsecond : ((a.toNat * 256 + b.toNat) * 256 + c.toNat) / 256 % 256 = b.toNat := by omega
  have hthird : ((a.toNat * 256 + b.toNat) * 256 + c.toNat) % 256 = c.toNat := by omega
  rw [threeBytes, hfirst, hsecond, hthird, UInt8.ofNat_toNat, UInt8.ofNat_toNat, UInt8.ofNat_toNat]

theorem group_digits (n : Nat) :
    ((n / 262144 * 64 + n / 4096 % 64) * 64 + n / 64 % 64) * 64 + n % 64 = n := by
  omega

variable {x y z w : Nat} (hx : x < 64) (hy : y < 64) (hz : z < 64) (hw : w < 64)
include hx hy hz

theorem encode_group (rest : Bytes) (hw : w < 64) :
    encode (threeBytes (((x * 64 + y) * 64 + z) * 64 + w) ++ rest) =
      symbol x :: symbol y :: symbol z :: symbol w :: encode rest := by
  have hfirst : (((x * 64 + y) * 64 + z) * 64 + w) / 262144 = x := by omega
  have hsecond : (((x * 64 + y) * 64 + z) * 64 + w) / 4096 % 64 = y := by omega
  have hthird : (((x * 64 + y) * 64 + z) * 64 + w) / 64 % 64 = z := by omega
  have hfourth : (((x * 64 + y) * 64 + z) * 64 + w) % 64 = w := by omega
  rw [encode_threeBytes (by omega), hfirst, hsecond, hthird, hfourth]

/-- Three symbols stand for two bytes if the last two bits are zero. -/
theorem encode_twoBytes (hzero : z % 4 = 0) :
    encode [UInt8.ofNat (((x * 64 + y) * 64 + z) / 4 / 256),
        UInt8.ofNat (((x * 64 + y) * 64 + z) / 4 % 256)] =
      [symbol x, symbol y, symbol z, pad] := by
  have hvalue : ((UInt8.ofNat (((x * 64 + y) * 64 + z) / 4 / 256)).toNat * 256 +
      (UInt8.ofNat (((x * 64 + y) * 64 + z) / 4 % 256)).toNat) * 4 = (x * 64 + y) * 64 + z := by
    simp only [UInt8.toNat_ofNat']
    omega
  have hfirst : ((x * 64 + y) * 64 + z) / 4096 = x := by omega
  have hsecond : ((x * 64 + y) * 64 + z) / 64 % 64 = y := by omega
  have hthird : ((x * 64 + y) * 64 + z) % 64 = z := by omega
  rw [encode, hvalue, hfirst, hsecond, hthird]

omit hz in
/-- Two symbols stand for one byte if the last four bits are zero. -/
theorem encode_oneByte (hzero : y % 16 = 0) :
    encode [UInt8.ofNat ((x * 64 + y) / 16)] = [symbol x, symbol y, pad, pad] := by
  have hvalue : (UInt8.ofNat ((x * 64 + y) / 16)).toNat * 16 = x * 64 + y := by
    rw [UInt8.toNat_ofNat']
    omega
  have hfirst : (x * 64 + y) / 64 = x := by omega
  have hsecond : (x * 64 + y) % 64 = y := by omega
  rw [encode, hvalue, hfirst, hsecond]

end Groups

section Decoding

variable {text bs : Bytes} {offset : Nat}

theorem ok_of_symbol {b : UInt8} {f : Nat → Except Fault Bytes}
    (h : (bitsAt offset b >>= f) = .ok bs) : ∃ n, n < 64 ∧ b = symbol n ∧ f n = .ok bs := by
  obtain ⟨n, hbits, hrest⟩ := ok_of_bind h
  obtain ⟨hn, hb⟩ := symbol_of_bitsAt hbits
  exact ⟨n, hn, hb.symm, hrest⟩

/-- What is left to decide once the first two symbols of a last group are read. -/
theorem decodeLast_group {x y : Nat} (hx : x < 64) (hy : y < 64) (c d : UInt8) :
    decodeLast offset [symbol x, symbol y, c, d] =
      if c = pad then
        if d = pad then
          if y % 16 ≠ 0 then .error (.invalidLastSymbol (symbol y) (offset + 1))
          else .ok [UInt8.ofNat ((x * 64 + y) / 16)]
        else .error (.invalidSymbol pad (offset + 2))
      else bitsAt (offset + 2) c >>= fun z =>
        if d = pad then
          if z % 4 ≠ 0 then .error (.invalidLastSymbol c (offset + 2))
          else .ok [UInt8.ofNat (((x * 64 + y) * 64 + z) / 4 / 256),
            UInt8.ofNat (((x * 64 + y) * 64 + z) / 4 % 256)]
        else bitsAt (offset + 3) d >>= fun w =>
          .ok (threeBytes (((x * 64 + y) * 64 + z) * 64 + w)) := by
  change (bitsAt offset (symbol x) >>= fun x => bitsAt (offset + 1) (symbol y) >>= _) = _
  rw [bitsAt_symbol_bind hx, bitsAt_symbol_bind hy]
  rfl

theorem eq_encode_of_group {a b c d : UInt8} (h : decodeLast offset [a, b, c, d] = .ok bs) :
    [a, b, c, d] = encode bs := by
  obtain ⟨x, hx, rfl, h₁⟩ := ok_of_symbol h
  obtain ⟨y, hy, rfl, _⟩ := ok_of_symbol h₁
  rw [decodeLast_group hx hy] at h
  -- With padding in the third place the group holds one byte, with padding in the fourth two.
  by_cases hc : c = pad
  · rw [if_pos hc] at h
    by_cases hd : d = pad
    · rw [if_pos hd] at h
      by_cases hzero : y % 16 = 0
      · rw [if_neg (not_not_intro hzero)] at h
        rw [← Except.ok.inj h, encode_oneByte hx hy hzero, hc, hd]
      · rw [if_pos hzero] at h
        exact nomatch h
    · rw [if_neg hd] at h
      exact nomatch h
  · rw [if_neg hc] at h
    obtain ⟨z, hz, rfl, h₂⟩ := ok_of_symbol h
    by_cases hd : d = pad
    · rw [if_pos hd] at h₂
      by_cases hzero : z % 4 = 0
      · rw [if_neg (not_not_intro hzero)] at h₂
        rw [← Except.ok.inj h₂, encode_twoBytes hx hy hz hzero, hd]
      · rw [if_pos hzero] at h₂
        exact nomatch h₂
    · rw [if_neg hd] at h₂
      obtain ⟨w, hw, rfl, h₃⟩ := ok_of_symbol h₂
      have hgroup := encode_group hx hy hz [] hw
      rw [List.append_nil] at hgroup
      rw [← Except.ok.inj h₃, hgroup]
      rfl

/-- A last group that is not filled up to four places is refused. -/
theorem decodeLast_short (hpos : 0 < text.length) (hlength : text.length < 4) :
    decodeLast offset text ≠ .ok bs := by
  intro h
  match text, hpos, hlength, h with
  | [a], _, _, h =>
    obtain ⟨_, _, h₁⟩ := ok_of_bind h
    exact nomatch h₁
  | [a, b], _, _, h =>
    obtain ⟨_, _, h₁⟩ := ok_of_bind h
    obtain ⟨_, _, h₂⟩ := ok_of_bind h₁
    exact nomatch h₂
  | [a, b, c], _, _, h =>
    obtain ⟨_, _, h₁⟩ := ok_of_bind h
    obtain ⟨_, _, h₂⟩ := ok_of_bind h₁
    change (if c = pad then .error .invalidPadding
      else bitsAt (offset + 2) c >>= fun _ => .error .invalidPadding) = Except.ok bs at h₂
    split at h₂
    · exact nomatch h₂
    · obtain ⟨_, _, h₃⟩ := ok_of_bind h₂
      exact nomatch h₃

theorem eq_encode_of_decodeLast (hlength : text.length ≤ 4)
    (h : decodeLast offset text = .ok bs) : text = encode bs := by
  match text, hlength, h with
  | [], _, h =>
    rw [← Except.ok.inj h]
    rfl
  | [a, b, c, d], _, h => exact eq_encode_of_group h
  | [a], _, h => exact absurd h (decodeLast_short (by simp) (by simp))
  | [a, b], _, h => exact absurd h (decodeLast_short (by simp) (by simp))
  | [a, b, c], _, h => exact absurd h (decodeLast_short (by simp) (by simp))

theorem eq_encode_of_decodeFrom (h : decodeFrom offset text = .ok bs) : text = encode bs := by
  induction offset, text using decodeFrom.induct generalizing bs with
  | case1 offset a b c d e rest ih =>
    rw [decodeFrom] at h
    obtain ⟨x, hx, rfl, h₁⟩ := ok_of_symbol h
    obtain ⟨y, hy, rfl, h₂⟩ := ok_of_symbol h₁
    obtain ⟨z, hz, rfl, h₃⟩ := ok_of_symbol h₂
    obtain ⟨w, hw, rfl, h₄⟩ := ok_of_symbol h₃
    obtain ⟨more, hmore, h₅⟩ := ok_of_bind h₄
    rw [← Except.ok.inj h₅, encode_group hx hy hz more hw, ih hmore]
  | case2 offset last hlast =>
    rw [decodeFrom.eq_2 _ _ hlast] at h
    have hlength : last.length ≤ 4 := by
      match last, hlast with
      | [], _ | [_], _ | [_, _], _ | [_, _, _], _ | [_, _, _, _], _ => simp
      | a :: b :: c :: d :: e :: rest, hlast => exact absurd rfl (hlast a b c d e rest)
    exact eq_encode_of_decodeLast hlength h

end Decoding

section Encoding

theorem length_encode (bs : Bytes) : (encode bs).length % 4 = 0 := by
  induction bs using encode.induct with
  | case1 a b c rest ih =>
    rw [encode]
    simp only [List.length_cons]
    omega
  | case2 a b => simp [encode]
  | case3 a => simp [encode]
  | case4 => rfl

variable (offset : Nat)

theorem decodeLast_threeBytes (a b c : UInt8) :
    decodeLast offset (encode [a, b, c]) = .ok [a, b, c] := by
  have ha := a.toNat_lt
  have hb := b.toNat_lt
  have hc := c.toNat_lt
  let n := (a.toNat * 256 + b.toNat) * 256 + c.toNat
  have hn : n < 16777216 := by omega
  have hencode : encode [a, b, c] = [symbol (n / 262144), symbol (n / 4096 % 64),
      symbol (n / 64 % 64), symbol (n % 64)] := rfl
  rw [hencode, decodeLast_group (by omega) (by omega), if_neg (symbol_ne_pad (by omega)),
    bitsAt_symbol_bind (by omega), if_neg (symbol_ne_pad (by omega)),
    bitsAt_symbol_bind (by omega), group_digits, threeBytes_value]

theorem decodeLast_twoBytes (a b : UInt8) :
    decodeLast offset (encode [a, b]) = .ok [a, b] := by
  have ha := a.toNat_lt
  have hb := b.toNat_lt
  let n := (a.toNat * 256 + b.toNat) * 4
  have hencode : encode [a, b] =
      [symbol (n / 4096), symbol (n / 64 % 64), symbol (n % 64), pad] := rfl
  have hvalue : (n / 4096 * 64 + n / 64 % 64) * 64 + n % 64 = n := by omega
  have hfirst : n / 4 / 256 = a.toNat := by omega
  have hsecond : n / 4 % 256 = b.toNat := by omega
  rw [hencode, decodeLast_group (by omega) (by omega), if_neg (symbol_ne_pad (by omega)),
    bitsAt_symbol_bind (by omega), if_pos rfl, if_neg (by omega), hvalue, hfirst, hsecond,
    UInt8.ofNat_toNat, UInt8.ofNat_toNat]

theorem decodeLast_oneByte (a : UInt8) : decodeLast offset (encode [a]) = .ok [a] := by
  have ha := a.toNat_lt
  let n := a.toNat * 16
  have hencode : encode [a] = [symbol (n / 64), symbol (n % 64), pad, pad] := rfl
  have hvalue : (n / 64 * 64 + n % 64) / 16 = a.toNat := by omega
  rw [hencode, decodeLast_group (by omega) (by omega), if_pos rfl, if_pos rfl,
    if_neg (by omega), hvalue, UInt8.ofNat_toNat]

theorem decodeFrom_encode (bs : Bytes) : decodeFrom offset (encode bs) = .ok bs := by
  induction bs using encode.induct generalizing offset with
  | case1 a b c rest ih =>
    -- The group is read as the last one exactly if no bytes are left.
    cases hrest : encode rest with
    | nil =>
      have hnil : rest = [] := by
        have h := ih offset
        rw [hrest] at h
        exact (Except.ok.inj h).symm
      rw [hnil]
      exact decodeLast_threeBytes offset a b c
    | cons e more =>
      have ha := a.toNat_lt
      have hb := b.toNat_lt
      have hc := c.toNat_lt
      have hih := ih (offset + 4)
      rw [hrest] at hih
      rw [encode, hrest, decodeFrom, bitsAt_symbol_bind (by omega), bitsAt_symbol_bind (by omega),
        bitsAt_symbol_bind (by omega), bitsAt_symbol_bind (by omega), hih]
      change Except.ok (threeBytes _ ++ rest) = _
      rw [group_digits, threeBytes_value]
      rfl
  | case2 a b => exact decodeLast_twoBytes offset a b
  | case3 a => exact decodeLast_oneByte offset a
  | case4 => rfl

end Encoding

theorem checkStray_encode (bs : Bytes) : checkStray (encode bs) = .ok () := by
  have hlength := length_encode bs
  exact if_neg (by omega)

theorem decode_eq_ok_iff {text bs : Bytes} : decode text = .ok bs ↔ text = encode bs := by
  constructor
  · intro h
    obtain ⟨_, _, hgroups⟩ := ok_of_bind h
    exact eq_encode_of_decodeFrom hgroups
  · rintro rfl
    unfold decode
    rw [checkStray_encode]
    exact decodeFrom_encode 0 bs

end SerumDex.Base64
