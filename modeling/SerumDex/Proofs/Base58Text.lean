import Mathlib.Data.List.TakeWhile
import Mathlib.Data.Nat.Digits.Lemmas
import SerumDex.Account.Address

namespace SerumDex

namespace Radix

theorem value_eq_ofDigits (base : Nat) (ds : List Nat) : value base ds = Nat.ofDigits base ds := by
  induction ds with
  | nil => rfl
  | cons d ds ih => rw [value, ih, Nat.ofDigits_cons]

theorem lt_of_mem_digits {base k n d : Nat} (hbase : 1 < base) (hd : d ∈ digits base k n) :
    d < base := by
  induction k generalizing n with
  | zero => exact nomatch hd
  | succ k ih =>
    rcases List.mem_cons.mp hd with rfl | hd
    · exact Nat.mod_lt _ (by omega)
    · exact ih hd

theorem value_lt {base : Nat} (hbase : 1 < base) {ds : List Nat} (hds : ∀ d ∈ ds, d < base) :
    value base ds < Nat.pow base ds.length := by
  rw [value_eq_ofDigits]
  exact Nat.ofDigits_lt_base_pow_length hbase hds

end Radix

namespace Base58

/-- The leading zeros of a number that is written with its first digit in front. -/
def zeros (ds : List Nat) : List Nat := ds.takeWhile (· == 0)

/-- The digits of a value behind some leading zeros. -/
def spelled (base count n : Nat) : List Nat :=
  List.replicate count 0 ++ (Nat.digits base n).reverse

section Spelling

variable {base : Nat}

theorem zeros_eq_replicate (ds : List Nat) : zeros ds = List.replicate (zeros ds).length 0 := by
  apply List.eq_replicate_of_mem
  intro d hd
  exact eq_of_beq (List.mem_takeWhile_imp (p := (· == 0)) hd)

theorem value_reverse_spelled (count n : Nat) :
    Radix.value base (spelled base count n).reverse = n := by
  rw [Radix.value_eq_ofDigits, spelled, List.reverse_append, List.reverse_reverse,
    List.reverse_replicate, Nat.ofDigits_append_replicate_zero, Nat.ofDigits_digits]

theorem zeros_spelled (count n : Nat) : zeros (spelled base count n) = List.replicate count 0 := by
  -- The first digit of a value is no zero, so the zeros in front end where it begins.
  have hdigits : zeros (Nat.digits base n).reverse = [] := by
    rcases Nat.eq_zero_or_pos n with rfl | hn
    · rw [Nat.digits_zero]
      rfl
    · have hne : Nat.digits base n ≠ [] := Nat.digits_ne_nil_iff_ne_zero.mpr (by omega)
      have hfirst : (Nat.digits base n).reverse.head (by simpa using hne) ≠ 0 := by
        rw [List.head_reverse]
        exact Nat.getLast_digit_ne_zero base (by omega)
      cases hcase : (Nat.digits base n).reverse with
      | nil => rfl
      | cons d ds =>
        simp only [hcase, List.head_cons] at hfirst
        exact List.takeWhile_cons_of_neg (by simpa using hfirst)
  have hfront : ∀ d ∈ List.replicate count 0, (d == 0) = true := by
    intro d hd
    rw [List.eq_of_mem_replicate hd]
    rfl
  have hsplit : zeros (spelled base count n) =
      List.replicate count 0 ++ zeros (Nat.digits base n).reverse :=
    List.takeWhile_append_of_pos hfront
  rw [hsplit, hdigits, List.append_nil]

/-- Digits in a base are the leading zeros and then the digits of the value. -/
theorem spelled_zeros_value (hbase : 1 < base) {ds : List Nat} (hds : ∀ d ∈ ds, d < base) :
    spelled base (zeros ds).length (Radix.value base ds.reverse) = ds := by
  let kept := ds.dropWhile (· == 0)
  have hsplit : ds = List.replicate (zeros ds).length 0 ++ kept := by
    rw [← zeros_eq_replicate]
    exact List.takeWhile_append_dropWhile.symm
  have hvalue : Radix.value base ds.reverse = Nat.ofDigits base kept.reverse := by
    calc
      Radix.value base ds.reverse
          = Nat.ofDigits base (kept.reverse ++ List.replicate (zeros ds).length 0) := by
        rw [Radix.value_eq_ofDigits]
        nth_rewrite 1 [hsplit]
        rw [List.reverse_append, List.reverse_replicate]
      _ = Nat.ofDigits base kept.reverse := Nat.ofDigits_append_replicate_zero _
  have hmem : ∀ d ∈ kept.reverse, d < base := by
    intro d hd
    exact hds d ((List.dropWhile_sublist _).mem (List.mem_reverse.mp hd))
  have hlast (h : kept.reverse ≠ []) : kept.reverse.getLast h ≠ 0 := by
    have hne : kept ≠ [] := fun hnil => h (by rw [hnil, List.reverse_nil])
    rw [List.getLast_reverse]
    exact ne_of_beq_false (List.head_dropWhile_not _ hne)
  rw [spelled, hvalue, Nat.digits_ofDigits base hbase _ hmem hlast, List.reverse_reverse,
    ← hsplit]

end Spelling

section Rebase

variable {base target room : Nat} {ds : List Nat}

theorem rebase_eq_spelled (htarget : 1 < target)
    (hroom : Radix.value base ds.reverse < Nat.pow target (room * ds.length)) :
    rebase base target room ds =
      spelled target (zeros ds).length (Radix.value base ds.reverse) := by
  let digits := Radix.digits target (room * ds.length) (Radix.value base ds.reverse)
  have hdigits : ∀ d ∈ digits.reverse, d < target := by
    intro d hd
    exact Radix.lt_of_mem_digits htarget (List.mem_reverse.mp hd)
  have hvalue : Radix.value target digits.reverse.reverse = Radix.value base ds.reverse := by
    rw [List.reverse_reverse]
    exact Radix.value_digits target _ _ hroom
  -- Behind their zeros, the digits of a fixed number of places are those of the value.
  have hkept : digits.reverse.dropWhile (· == 0) =
      (Nat.digits target (Radix.value base ds.reverse)).reverse := by
    have hspelled := spelled_zeros_value htarget hdigits
    rw [hvalue, spelled, ← zeros_eq_replicate] at hspelled
    have hsplit : zeros digits.reverse ++ digits.reverse.dropWhile (· == 0) = digits.reverse :=
      List.takeWhile_append_dropWhile
    exact List.append_cancel_left (hsplit.trans hspelled.symm)
  unfold rebase spelled
  simp only
  rw [hkept, ← zeros_eq_replicate]
  rfl

/-- What was carried over to another base is carried back unchanged. -/
theorem rebase_rebase {back : Nat} (hbase : 1 < base) (htarget : 1 < target)
    (hds : ∀ d ∈ ds, d < base)
    (hroom : Radix.value base ds.reverse < Nat.pow target (room * ds.length))
    (hback : Radix.value base ds.reverse <
      Nat.pow base (back * (rebase base target room ds).length)) :
    rebase target base back (rebase base target room ds) = ds := by
  have hout := rebase_eq_spelled htarget hroom
  have hzeros : (zeros (rebase base target room ds)).length = (zeros ds).length := by
    rw [hout, zeros_spelled, List.length_replicate]
  have hvalue : Radix.value target (rebase base target room ds).reverse =
      Radix.value base ds.reverse := by
    rw [hout, value_reverse_spelled]
  rw [rebase_eq_spelled hbase (by rwa [hvalue]), hzeros, hvalue, spelled_zeros_value hbase hds]

end Rebase

theorem lt_of_mem_rebase {base target room d : Nat} {ds : List Nat} (htarget : 1 < target)
    (hroom : Radix.value base ds.reverse < Nat.pow target (room * ds.length))
    (hd : d ∈ rebase base target room ds) : d < target := by
  rw [rebase_eq_spelled htarget hroom] at hd
  rcases List.mem_append.mp hd with hzero | hdigit
  · rw [List.eq_of_mem_replicate hzero]
    omega
  · exact Nat.digits_lt_base htarget (List.mem_reverse.mp hdigit)

theorem digit?_digit {n : Nat} (h : n < 58) : digit? (digit n) = some n := by
  have hall : ∀ n : Fin 58, digit? (digit n) = some n.val := by decide
  exact hall ⟨n, h⟩

theorem mapM_digit?_map_digit {ds : List Nat} (hds : ∀ d ∈ ds, d < 58) :
    (ds.map digit).mapM digit? = some ds := by
  induction ds with
  | nil => rfl
  | cons d ds ih =>
    obtain ⟨hd, hds⟩ := List.forall_mem_cons.mp hds
    rw [List.map_cons, List.mapM_cons, digit?_digit hd, ih hds]
    rfl

section Bytes

variable (bs : Bytes)

theorem byte_lt : ∀ d ∈ bs.map UInt8.toNat, d < 256 := by
  intro d hd
  obtain ⟨b, _, rfl⟩ := List.mem_map.mp hd
  exact b.toNat_lt

theorem value_bytes_lt :
    Radix.value 256 (bs.map UInt8.toNat).reverse < Nat.pow 256 (bs.map UInt8.toNat).length := by
  have hdigits : ∀ d ∈ (bs.map UInt8.toNat).reverse, d < 256 := by
    intro d hd
    exact byte_lt bs d (List.mem_reverse.mp hd)
  have hlt := Radix.value_lt (by decide) hdigits
  rwa [List.length_reverse] at hlt

theorem value_bytes_lt_room : Radix.value 256 (bs.map UInt8.toNat).reverse <
    Nat.pow 58 (2 * (bs.map UInt8.toNat).length) := by
  -- Two base58 digits have room for a byte.
  refine lt_of_lt_of_le (value_bytes_lt bs) ?_
  have hpow : Nat.pow 58 (2 * (bs.map UInt8.toNat).length) =
      Nat.pow (58 * 58) (bs.map UInt8.toNat).length := pow_mul 58 2 _
  rw [hpow]
  exact Nat.pow_le_pow_left (by decide) _

theorem decodeChars?_encodeChars : decodeChars? (encodeChars bs) = some bs := by
  let ds := bs.map UInt8.toNat
  have hroom := value_bytes_lt_room bs
  have hdigits : ∀ d ∈ rebase 256 58 2 ds, d < 58 := fun d hd =>
    lt_of_mem_rebase (by decide) hroom hd
  -- The number is below the power that one byte for each of its base58 digits gives.
  have hback : Radix.value 256 ds.reverse < Nat.pow 256 (1 * (rebase 256 58 2 ds).length) := by
    have hvalue : Radix.value 58 (rebase 256 58 2 ds).reverse = Radix.value 256 ds.reverse := by
      rw [rebase_eq_spelled (by decide) hroom, value_reverse_spelled]
    have hreverse : ∀ d ∈ (rebase 256 58 2 ds).reverse, d < 58 := fun d hd =>
      hdigits d (List.mem_reverse.mp hd)
    have hlt := Radix.value_lt (by decide) hreverse
    rw [hvalue, List.length_reverse] at hlt
    rw [Nat.one_mul]
    exact lt_of_lt_of_le hlt (Nat.pow_le_pow_left (by decide) _)
  have hread : rebase 58 256 1 (rebase 256 58 2 ds) = ds :=
    rebase_rebase (by decide) (by decide) (byte_lt bs) hroom hback
  have hbytes : ds.map UInt8.ofNat = bs := by
    rw [List.map_map]
    exact List.map_id'' (fun b => UInt8.ofNat_toNat) bs
  rw [decodeChars?, encodeChars, mapM_digit?_map_digit hdigits]
  change some ((rebase 58 256 1 (rebase 256 58 2 ds)).map UInt8.ofNat) = some bs
  rw [hread, hbytes]

end Bytes

/-- Every byte string is read back from its text. -/
theorem decode?_encode (bs : Bytes) : decode? (encode bs) = some bs := by
  rw [decode?, encode, String.toList_ofList, decodeChars?_encodeChars]

end Base58

theorem Address.text_injective {a b : Address} (h : a.text = b.text) : a = b := by
  have hbytes : some a.bytes = some b.bytes := by
    rw [← Base58.decode?_encode a.bytes, ← Base58.decode?_encode b.bytes]
    exact congrArg Base58.decode? h
  cases a
  cases b
  cases hbytes
  rfl

/-- The bytes of a text. -/
def textBytes (s : String) : List UInt8 := s.toUTF8.data.toList

theorem textBytes_ofList {cs : List Char} (hcs : ∀ c ∈ cs, c.utf8Size = 1) :
    textBytes (String.ofList cs) = cs.map fun c => c.val.toUInt8 := by
  have hbytes : cs.utf8Encode.data.toList = cs.map fun c => c.val.toUInt8 := by
    induction cs with
    | nil => rfl
    | cons c cs ih =>
      obtain ⟨hc, hcs⟩ := List.forall_mem_cons.mp hcs
      rw [List.utf8Encode_cons, List.utf8Encode_singleton, String.utf8EncodeChar_eq_singleton hc,
        ByteArray.data_append, Array.toList_append, ih hcs]
      rfl
  rw [← hbytes]
  exact congrArg (fun b : ByteArray => b.data.toList) String.toByteArray_ofList

/-- Among ASCII texts the one that comes first has the bytes that come first. -/
theorem textBytes_lt {cs ds : List Char} (hcs : ∀ c ∈ cs, c.utf8Size = 1)
    (hds : ∀ d ∈ ds, d.utf8Size = 1) (h : cs < ds) :
    textBytes (String.ofList cs) < textBytes (String.ofList ds) := by
  have hsmall {c : Char} (hc : c.utf8Size = 1) : c.val.toNat ≤ 127 := Char.utf8Size_eq_one_iff.mp hc
  rw [textBytes_ofList hcs, textBytes_ofList hds]
  induction cs generalizing ds with
  | nil =>
    cases ds with
    | nil => exact absurd h (List.lt_irrefl _)
    | cons d ds => exact List.nil_lt_cons _ _
  | cons c cs ih =>
    cases ds with
    | nil => exact absurd h (List.not_lt_nil _)
    | cons d ds =>
      obtain ⟨hc, hcs⟩ := List.forall_mem_cons.mp hcs
      obtain ⟨hd, hds⟩ := List.forall_mem_cons.mp hds
      rw [List.map_cons, List.map_cons, List.cons_lt_cons_iff]
      rcases List.cons_lt_cons_iff.mp h with hlt | ⟨heq, hlt⟩
      · left
        have hc := hsmall hc
        have hd := hsmall hd
        have hnat : c.val.toNat < d.val.toNat := hlt
        rw [UInt8.lt_iff_toNat_lt, UInt32.toNat_toUInt8, UInt32.toNat_toUInt8]
        omega
      · rw [heq]
        exact .inr ⟨rfl, ih hcs hds hlt⟩

theorem Base58.utf8Size_of_mem_encodeChars (bs : Bytes) :
    ∀ c ∈ encodeChars bs, c.utf8Size = 1 := by
  have hall : ∀ n : Fin 58, (digit n).utf8Size = 1 := by decide
  intro c hc
  obtain ⟨d, hd, rfl⟩ := List.mem_map.mp hc
  exact hall ⟨d, lt_of_mem_rebase (by decide) (value_bytes_lt_room bs) hd⟩

theorem Address.textBytes_lt_of_text_lt {a b : Address} (h : a.text < b.text) :
    textBytes a.text < textBytes b.text := by
  have hchars : Base58.encodeChars a.bytes < Base58.encodeChars b.bytes := by
    have hlt : a.text.toList < b.text.toList := h
    rwa [text, text, Base58.encode, Base58.encode, String.toList_ofList,
      String.toList_ofList] at hlt
  exact textBytes_lt (Base58.utf8Size_of_mem_encodeChars a.bytes)
    (Base58.utf8Size_of_mem_encodeChars b.bytes) hchars

end SerumDex
