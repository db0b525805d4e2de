import SerumDex.Proofs.Base58Text
import SerumDex.Proofs.Base64Codec
import SerumDex.Rpc.AccountData

namespace SerumDex

theorem toList_toUTF8 (s : String) : s.toUTF8.toList = textBytes s := by
  have hloop (bs : ByteArray) (i : Nat) (front : List UInt8) :
      ByteArray.toList.loop bs i front = front.reverse ++ bs.data.toList.drop i := by
    -- The loop keeps the bytes that it has passed, the last one in front.
    fun_induction ByteArray.toList.loop bs i front with
    | case1 i front hlt ih =>
      have hi : i < bs.data.toList.length := by simpa using hlt
      have hget : bs.get! i = bs.data.toList[i] := by
        change bs.data[i]! = _
        rw [getElem!_pos bs.data i hlt, Array.getElem_toList]
      rw [ih, List.drop_eq_getElem_cons hi, hget, List.reverse_cons, List.append_assoc]
      rfl
    | case2 i front hge =>
      have hend : bs.data.toList.drop i = [] := by
        apply List.drop_eq_nil_of_le
        simpa using Nat.le_of_not_lt hge
      rw [hend, List.append_nil]
  exact hloop s.toUTF8 0 []

theorem textBytes_injective {s t : String} (h : textBytes s = textBytes t) : s = t := by
  apply String.toByteArray_inj.mp
  apply ByteArray.ext
  exact Array.toList_inj.mp h

namespace Base64

/-- The lowest bits of a number, the highest of them first. -/
def bitsOf : Nat → Nat → List Bool
  | 0, _ => []
  | width + 1, n => n.testBit width :: bitsOf width n

theorem length_alphabet : alphabet.length = 64 := by decide

def character (digit : Fin 64) : Char := alphabet.get (digit.cast length_alphabet.symm)

/-- How many characters are missing in the last group of four. -/
def padding (bs : Bytes) : Nat := (3 - bs.length % 3) % 3

/-- A text of a byte string: the bits of the bytes, filled up with zeros, are cut into digits of six
bits, and `=` stands for what is missing in the last group. -/
def Spells (text : String) (bs : Bytes) : Prop :=
  ∃ digits : List (Fin 64),
    text.toList = digits.map character ++ List.replicate (padding bs) '=' ∧
      digits.flatMap (fun d => bitsOf 6 d.val) =
        bs.flatMap (fun b => bitsOf 8 b.toNat) ++ List.replicate (2 * padding bs) false

section Bits

theorem length_bitsOf (width n : Nat) : (bitsOf width n).length = width := by
  induction width with
  | zero => rfl
  | succ width ih => rw [bitsOf, List.length_cons, ih]

/-- The bits of a number are those of its quotient and then the lower ones. -/
theorem bitsOf_add (high low n : Nat) :
    bitsOf (high + low) n = bitsOf high (n / Nat.pow 2 low) ++ bitsOf low n := by
  induction high with
  | zero => rw [Nat.zero_add]; rfl
  | succ high ih =>
    have hbit : (n / Nat.pow 2 low).testBit high = n.testBit (high + low) :=
      Nat.testBit_div_two_pow n high
    rw [Nat.succ_add, bitsOf, bitsOf, ih, hbit]
    rfl

theorem bitsOf_mod {width high : Nat} (h : width ≤ high) (n : Nat) :
    bitsOf width (n % Nat.pow 2 high) = bitsOf width n := by
  induction width with
  | zero => rfl
  | succ width ih =>
    have hbit : (n % Nat.pow 2 high).testBit width = n.testBit width := by
      have hmod := Nat.testBit_mod_two_pow n high width
      rwa [decide_eq_true (show width < high by omega), Bool.true_and] at hmod
    rw [bitsOf, bitsOf, ih (by omega), hbit]

theorem bitsOf_digit (n : Nat) : bitsOf 6 (Fin.ofNat 64 n).val = bitsOf 6 n :=
  bitsOf_mod (Nat.le_refl 6) n

theorem bitsOf_byte {n : Nat} {b : UInt8} (h : n % 256 = b.toNat) :
    bitsOf 8 n = bitsOf 8 b.toNat := by
  rw [← h]
  exact (bitsOf_mod (Nat.le_refl 8) n).symm

theorem bitsOf_zeros {width n : Nat} (h : n % Nat.pow 2 width = 0) :
    bitsOf width n = List.replicate width false := by
  have hzero : bitsOf width 0 = List.replicate width false := by
    clear h
    induction width with
    | zero => rfl
    | succ width ih => rw [bitsOf, ih, Nat.zero_testBit, List.replicate_succ]
  rw [← bitsOf_mod (Nat.le_refl width) n, h, hzero]

theorem bitsOf_injective {d e : Fin 64} (h : bitsOf 6 d.val = bitsOf 6 e.val) : d = e := by
  -- The number that some bits spell is read off digit by digit.
  let value (bits : List Bool) : Nat := bits.foldl (fun n b => 2 * n + b.toNat) 0
  have hvalue : ∀ k : Fin 64, value (bitsOf 6 k.val) = k.val := by decide
  apply Fin.ext
  rw [← hvalue d, h, hvalue e]

theorem flatMap_bitsOf_injective {ds es : List (Fin 64)}
    (h : (ds.flatMap fun d => bitsOf 6 d.val) = es.flatMap fun e => bitsOf 6 e.val) : ds = es := by
  have hlength (d : Fin 64) : (bitsOf 6 d.val).length = 6 := length_bitsOf 6 d
  have hne (d : Fin 64) (ds : List (Fin 64)) :
      ((d :: ds).flatMap fun d => bitsOf 6 d.val) ≠ [] := by
    intro hnil
    have hbits := congrArg List.length hnil
    rw [List.flatMap_cons, List.length_append, hlength, List.length_nil] at hbits
    omega
  induction ds generalizing es with
  | nil =>
    cases es with
    | nil => rfl
    | cons e es => exact absurd h.symm (hne e es)
  | cons d ds ih =>
    cases es with
    | nil => exact absurd h (hne d ds)
    | cons e es =>
      -- All digits have as many bits, so the first ones end at the same place.
      rw [List.flatMap_cons, List.flatMap_cons] at h
      obtain ⟨hfirst, hrest⟩ := List.append_inj h ((hlength d).trans (hlength e).symm)
      rw [bitsOf_injective hfirst, ih hrest]

end Bits

section Digits

/-- The digits of the text of a byte string. -/
def digits : Bytes → List (Fin 64)
  | a :: b :: c :: rest =>
    let n := (a.toNat * 256 + b.toNat) * 256 + c.toNat
    Fin.ofNat 64 (n / 262144) :: Fin.ofNat 64 (n / 4096) :: Fin.ofNat 64 (n / 64) ::
      Fin.ofNat 64 n :: digits rest
  | [a, b] =>
    let n := (a.toNat * 256 + b.toNat) * 4
    [Fin.ofNat 64 (n / 4096), Fin.ofNat 64 (n / 64), Fin.ofNat 64 n]
  | [a] =>
    let n := a.toNat * 16
    [Fin.ofNat 64 (n / 64), Fin.ofNat 64 n]
  | [] => []

theorem padding_group (a b c : UInt8) (rest : Bytes) :
    padding (a :: b :: c :: rest) = padding rest := by
  have hlength : (a :: b :: c :: rest).length = rest.length + 3 := rfl
  rw [padding, padding, hlength, Nat.add_mod_right]

theorem encode_eq_map_digits (bs : Bytes) :
    encode bs = (digits bs).map (fun d => symbol d.val) ++ List.replicate (padding bs) pad := by
  -- The first digit of a group needs no remainder, as a group has 24 bits at most.
  have hfirst (n k : Nat) (h : n / k < 64) : (Fin.ofNat 64 (n / k)).val = n / k :=
    Nat.mod_eq_of_lt h
  induction bs using encode.induct with
  | case1 a b c rest ih =>
    have ha := a.toNat_lt
    have hb := b.toNat_lt
    have hc := c.toNat_lt
    rw [encode, digits, padding_group, ih]
    simp only [List.map_cons, List.cons_append]
    rw [hfirst _ _ (by omega)]
    rfl
  | case2 a b =>
    have ha := a.toNat_lt
    have hb := b.toNat_lt
    rw [encode, digits]
    simp only [List.map_cons, List.cons_append]
    rw [hfirst _ _ (by omega)]
    rfl
  | case3 a =>
    have ha := a.toNat_lt
    rw [encode, digits]
    simp only [List.map_cons, List.cons_append]
    rw [hfirst _ _ (by omega)]
    rfl
  | case4 => rfl

theorem bitsOf_threeBytes (a b c : UInt8) {n : Nat}
    (hn : n = (a.toNat * 256 + b.toNat) * 256 + c.toNat) :
    bitsOf 6 (n / 262144) ++ (bitsOf 6 (n / 4096) ++ (bitsOf 6 (n / 64) ++ bitsOf 6 n)) =
      bitsOf 8 a.toNat ++ (bitsOf 8 b.toNat ++ bitsOf 8 c.toNat) := by
  have hb := b.toNat_lt
  have hc := c.toNat_lt
  have hfirst : n / 65536 = a.toNat := by omega
  have hsecond : bitsOf 8 (n / 256) = bitsOf 8 b.toNat := bitsOf_byte (by omega)
  have hthird : bitsOf 8 n = bitsOf 8 c.toNat := bitsOf_byte (by omega)
  have hdigits : bitsOf 24 n =
      bitsOf 6 (n / 262144) ++ (bitsOf 6 (n / 4096) ++ (bitsOf 6 (n / 64) ++ bitsOf 6 n)) := by
    rw [bitsOf_add 6 18 n, bitsOf_add 6 12 n, bitsOf_add 6 6 n]
  -- Digits are cut 18, 12 and 6 bits from the end, and bytes 16 and 8 bits from it.
  calc
    _ = bitsOf 24 n := hdigits.symm
    _ = bitsOf 8 (n / 65536) ++ (bitsOf 8 (n / 256) ++ bitsOf 8 n) := by
      rw [bitsOf_add 8 16 n, bitsOf_add 8 8 n]
    _ = _ := by rw [hfirst, hsecond, hthird]

theorem bitsOf_twoBytes (a b : UInt8) {n : Nat} (hn : n = (a.toNat * 256 + b.toNat) * 4) :
    bitsOf 6 (n / 4096) ++ (bitsOf 6 (n / 64) ++ bitsOf 6 n) =
      bitsOf 8 a.toNat ++ (bitsOf 8 b.toNat ++ List.replicate 2 false) := by
  have hb := b.toNat_lt
  have hfirst : n / 1024 = a.toNat := by omega
  have hsecond : bitsOf 8 (n / 4) = bitsOf 8 b.toNat := bitsOf_byte (by omega)
  have hfill : bitsOf 2 n = List.replicate 2 false := bitsOf_zeros (show n % 4 = 0 by omega)
  have hdigits : bitsOf 18 n = bitsOf 6 (n / 4096) ++ (bitsOf 6 (n / 64) ++ bitsOf 6 n) := by
    rw [bitsOf_add 6 12 n, bitsOf_add 6 6 n]
  -- Behind the two bytes, two bits of the last digit are left over.
  calc
    _ = bitsOf 18 n := hdigits.symm
    _ = bitsOf 8 (n / 1024) ++ (bitsOf 8 (n / 4) ++ bitsOf 2 n) := by
      rw [bitsOf_add 8 10 n, bitsOf_add 8 2 n]
    _ = _ := by rw [hfirst, hsecond, hfill]

theorem bitsOf_oneByte (a : UInt8) {n : Nat} (hn : n = a.toNat * 16) :
    bitsOf 6 (n / 64) ++ bitsOf 6 n = bitsOf 8 a.toNat ++ List.replicate 4 false := by
  have hfirst : n / 16 = a.toNat := by omega
  have hfill : bitsOf 4 n = List.replicate 4 false := bitsOf_zeros (show n % 16 = 0 by omega)
  calc
    _ = bitsOf 12 n := (bitsOf_add 6 6 n).symm
    _ = bitsOf 8 (n / 16) ++ bitsOf 4 n := bitsOf_add 8 4 n
    _ = _ := by rw [hfirst, hfill]

theorem flatMap_digits (bs : Bytes) : (digits bs).flatMap (fun d => bitsOf 6 d.val) =
    bs.flatMap (fun b => bitsOf 8 b.toNat) ++ List.replicate (2 * padding bs) false := by
  induction bs using digits.induct with
  | case1 a b c rest ih =>
    have hgroup := bitsOf_threeBytes a b c rfl
    rw [digits, padding_group]
    simp only [List.flatMap_cons, bitsOf_digit, ih, List.append_assoc]
    simp only [← List.append_assoc] at hgroup ⊢
    rw [hgroup]
  | case2 a b =>
    rw [digits]
    simp only [List.flatMap_cons, List.flatMap_nil, bitsOf_digit, List.append_nil,
      List.append_assoc]
    exact bitsOf_twoBytes a b rfl
  | case3 a =>
    rw [digits]
    simp only [List.flatMap_cons, List.flatMap_nil, bitsOf_digit, List.append_nil]
    exact bitsOf_oneByte a rfl
  | case4 => rfl

end Digits

section Texts

def textOf (bs : Bytes) : String :=
  String.ofList ((digits bs).map character ++ List.replicate (padding bs) '=')

theorem textBytes_textOf (bs : Bytes) : textBytes (textOf bs) = encode bs := by
  -- Every character is a single byte, and this byte is the symbol of its digit.
  have hsize : ∀ d : Fin 64, (character d).utf8Size = 1 := by decide +kernel
  have hbyte : ∀ d : Fin 64, (character d).val.toUInt8 = symbol d.val := by decide +kernel
  have hchars : ∀ c ∈ (digits bs).map character ++ List.replicate (padding bs) '=',
      c.utf8Size = 1 := by
    intro c hc
    rcases List.mem_append.mp hc with hc | hc
    · obtain ⟨d, _, rfl⟩ := List.mem_map.mp hc
      exact hsize d
    · rw [List.eq_of_mem_replicate hc]
      decide
  rw [textOf, textBytes_ofList hchars, List.map_append, List.map_map, List.map_replicate,
    encode_eq_map_digits]
  congr 1
  exact List.map_congr_left fun d _ => hbyte d

/-- A byte string has one text. -/
theorem spells_iff {text : String} {bs : Bytes} : Spells text bs ↔ text = textOf bs := by
  constructor
  · rintro ⟨ds, htext, hbits⟩
    -- The bits leave no choice of the digits, nor these one of the characters.
    have hds : ds = digits bs := flatMap_bitsOf_injective (hbits.trans (flatMap_digits bs).symm)
    rw [← String.ofList_toList (s := text), htext, hds]
    rfl
  · rintro rfl
    exact ⟨digits bs, String.toList_ofList, flatMap_digits bs⟩

example : Spells "c2VydW0=" [115, 101, 114, 117, 109] := spells_iff.mpr (by decide +kernel)

theorem decode_text_eq_ok_iff {text : String} {bs : Bytes} :
    decode text.toUTF8.toList = .ok bs ↔ Spells text bs := by
  rw [decode_eq_ok_iff, toList_toUTF8, spells_iff, ← textBytes_textOf]
  constructor
  · exact textBytes_injective
  · rintro rfl
    rfl

end Texts

end Base64

namespace AccountData

variable (address : Address)

theorem bytes_encoded_eq_ok_iff {text : String} {bs : Bytes} :
    bytes address (.encoded text .base64) = .ok bs ↔ Base64.Spells text bs := by
  rw [← Base64.decode_text_eq_ok_iff]
  cases hdecode : Base64.decode text.toUTF8.toList with
  | ok found =>
    have hbytes : bytes address (.encoded text .base64) = .ok found := by
      simp only [bytes, hdecode]
    rw [hbytes, Except.ok.injEq, Except.ok.injEq]
  | error fault =>
    have hbytes : bytes address (.encoded text .base64) =
        .error (.rpc address ("base64 invalide : " ++ fault.message)) := by
      simp only [bytes, hdecode]
    rw [hbytes]
    exact ⟨nofun, nofun⟩

theorem base64_of_bytes_eq_ok {data : AccountData} {bs : Bytes}
    (h : bytes address data = .ok bs) : ∃ text, data = .encoded text .base64 := by
  cases data with
  | legacy text => exact nomatch h
  | parsed account => exact nomatch h
  | encoded text encoding =>
    cases encoding with
    | base64 => exact ⟨text, rfl⟩
    | binary => exact nomatch h
    | base58 => exact nomatch h
    | jsonParsed => exact nomatch h
    | base64Zstd => exact nomatch h

theorem rpc_of_bytes_eq_error {data : AccountData} {e : FetchError}
    (h : bytes address data = .error e) : ∃ reason, e = .rpc address reason := by
  unfold bytes at h
  split at h
  · split at h
    · exact nomatch h
    · exact ⟨_, (Except.error.inj h).symm⟩
  · exact ⟨_, (Except.error.inj h).symm⟩

end AccountData

/-- The data of an account are accepted in base64 only, and only as the one text of their bytes.
Every byte string has such a text, and whatever else a node delivers is an error at the address that
was asked for. -/
theorem accountData_bytes (address : Address) :
    (∀ data bs, AccountData.bytes address data = .ok bs ↔
      ∃ text, data = .encoded text .base64 ∧ Base64.Spells text bs) ∧
    (∀ bs, ∃ text, Base64.Spells text bs ∧
      ∀ text', AccountData.bytes address (.encoded text' .base64) = .ok bs ↔ text' = text) ∧
    (∀ data, (¬ ∃ text bs, data = .encoded text .base64 ∧ Base64.Spells text bs) →
      ∃ reason, AccountData.bytes address data = .error (.rpc address reason)) := by
  have hiff (data : AccountData) (bs : Bytes) : AccountData.bytes address data = .ok bs ↔
      ∃ text, data = .encoded text .base64 ∧ Base64.Spells text bs := by
    constructor
    · intro h
      obtain ⟨text, rfl⟩ := AccountData.base64_of_bytes_eq_ok address h
      exact ⟨text, rfl, (AccountData.bytes_encoded_eq_ok_iff address).mp h⟩
    · rintro ⟨text, rfl, hspells⟩
      exact (AccountData.bytes_encoded_eq_ok_iff address).mpr hspells
  refine ⟨hiff, ?_, ?_⟩
  · intro bs
    refine ⟨Base64.textOf bs, Base64.spells_iff.mpr rfl, ?_⟩
    intro text'
    rw [AccountData.bytes_encoded_eq_ok_iff, Base64.spells_iff]
  · intro data hother
    cases hresult : AccountData.bytes address data with
    | ok bs =>
      obtain ⟨text, hdata, hspells⟩ := (hiff data bs).mp hresult
      exact absurd ⟨text, bs, hdata, hspells⟩ hother
    | error e =>
      obtain ⟨reason, rfl⟩ := AccountData.rpc_of_bytes_eq_error address hresult
      exact ⟨reason, rfl⟩

end SerumDex
