import SerumDex.Bytes.Fields
import SerumDex.Mint

namespace SerumDex

/-- Where the fields of a mint lie in its account, and the bytes that stand for them there. -/
def MintBase.fields (b : MintBase) : List (Nat × Bytes) :=
  [(0, leBytes 4 b.authorityTag.toNat), (4, b.authority.bytes), (36, leBytes 8 b.supply.toNat),
    (44, [b.decimals]), (45, [b.initialized]), (46, leBytes 4 b.freezeTag.toNat),
    (50, b.freezeAuthority.bytes)]

/-- The content of a mint account. A key that an authority does without may be anything. -/
structure MintAccount where
  base : MintBase
  /-- What follows the type of the account; nothing if the account ends with its base. -/
  extensions : Option Bytes
  authorityTag_le : base.authorityTag ≤ 1
  freezeTag_le : base.freezeTag ≤ 1
  initialized_eq : base.initialized = 1

namespace MintAccount

/-- What follows the base: zeros up to the size of a token account, the type, the extensions. -/
def tail : Option Bytes → Bytes
  | none => []
  | some extensions => List.replicate 83 0 ++ 1 :: extensions

/-- The account with every field written at its offset. -/
def bytes (a : MintAccount) : Bytes :=
  putFields (List.replicate 82 0) a.base.fields ++ tail a.extensions

end MintAccount

namespace MintBase

variable (b : MintBase)

theorem sideBySide_fields : SideBySide 0 b.fields := by
  simp only [fields, SideBySide, Address.length_bytes, length_leBytes, List.length_singleton,
    and_self]

/-- The fields are written in the order of the layout. -/
theorem flatMap_fields : b.fields.flatMap Prod.snd = layout.write b := by
  have hbyte (w : UInt8) : [w] = Layout.word8.write w := by
    change [w] = [UInt8.ofNat w.toNat]
    rw [UInt8.ofNat_toNat]
  simp only [fields, List.flatMap_cons, List.flatMap_nil, List.append_nil, hbyte]
  rfl

theorem check_eq_ok_iff :
    b.check = .ok () ↔ b.authorityTag ≤ 1 ∧ b.freezeTag ≤ 1 ∧ b.initialized = 1 := by
  have hsmall (w : UInt8) : w = 1 ↔ ¬ 1 < w ∧ w ≠ 0 := by
    rw [← UInt8.toNat_inj, UInt8.lt_iff_toNat_lt, ne_eq, ← UInt8.toNat_inj]
    change w.toNat = 1 ↔ ¬ 1 < w.toNat ∧ ¬ w.toNat = 0
    omega
  rw [hsmall, ← UInt32.not_lt, ← UInt32.not_lt]
  unfold check
  split
  · next h =>
    constructor
    · exact nofun
    · rintro ⟨hauthority, hfreeze, hinitialized, _⟩
      rcases h with h | h | h
      · exact absurd h hauthority
      · exact absurd h hinitialized
      · exact absurd h hfreeze
  · next h =>
    rw [not_or, not_or] at h
    split
    · next hzero => exact ⟨nofun, fun hall => absurd hzero hall.2.2.2⟩
    · next hzero => exact ⟨fun _ => ⟨h.1, h.2.2, h.2.1, hzero⟩, fun _ => rfl⟩

end MintBase

theorem checkMintTail_eq_ok_iff {rest : Bytes} :
    checkMintTail rest = .ok () ↔ ∃ extensions, rest = MintAccount.tail extensions := by
  have hpadding : tokenAccountSize - MintBase.layout.size = 83 := rfl
  unfold checkMintTail
  simp only [hpadding]
  split
  · next hnil => exact ⟨fun _ => ⟨none, List.isEmpty_iff.mp hnil⟩, fun _ => rfl⟩
  · next hcons =>
    split
    · next hzeros =>
      obtain ⟨hzeros, htype⟩ := hzeros
      obtain ⟨hlt, htype⟩ := List.getElem?_eq_some_iff.mp htype
      refine ⟨fun _ => ⟨some (rest.drop 84), ?_⟩, fun _ => rfl⟩
      have hsplit : rest.drop 83 = 1 :: rest.drop 84 := by
        rw [List.drop_eq_getElem_cons hlt, htype]
        rfl
      change rest = List.replicate 83 0 ++ 1 :: rest.drop 84
      rw [← hsplit, ← hzeros, List.take_append_drop]
    · next hother =>
      refine ⟨nofun, ?_⟩
      rintro ⟨_ | extensions, rfl⟩
      · exact absurd rfl hcons
      · have hzeros : (List.replicate 83 (0 : UInt8)).length = 83 := List.length_replicate
        refine absurd ⟨List.take_left' hzeros, ?_⟩ hother
        change (List.replicate 83 0 ++ 1 :: extensions)[83]? = some 1
        rw [List.getElem?_append_right (by omega), hzeros]
        rfl

theorem readMint_eq_ok_iff {data : Bytes} {base : MintBase} :
    readMint data = .ok base ↔ data.length ≠ 355 ∧ MintBase.layout.readAt? 0 data = some base ∧
      base.check = .ok () ∧ checkMintTail (data.drop 82) = .ok () := by
  unfold readMint
  split
  · next hsize => exact ⟨nofun, fun h => absurd hsize h.1⟩
  · next hsize =>
    split
    · next hnone =>
      rw [hnone]
      exact ⟨nofun, fun h => nomatch h.2.1⟩
    · next found hfound =>
      have hrest : data.drop MintBase.layout.size = data.drop 82 := rfl
      rw [hfound, hrest]
      cases hcheck : found.check with
      | error fault =>
        refine ⟨nofun, ?_⟩
        rintro ⟨_, hbase, hok, _⟩
        rw [← Option.some.inj hbase, hcheck] at hok
        exact nomatch hok
      | ok checked =>
        cases htail : checkMintTail (data.drop 82) with
        | error fault => exact ⟨nofun, fun h => nomatch h.2.2.2⟩
        | ok checkedTail =>
          constructor
          · intro h
            cases h
            exact ⟨hsize, rfl, hcheck, rfl⟩
          · rintro ⟨_, hbase, _, _⟩
            exact congrArg Except.ok (Option.some.inj hbase)

namespace MintAccount

variable (a : MintAccount)

theorem bytes_eq : a.bytes = MintBase.layout.write a.base ++ tail a.extensions := by
  have hgap : (List.replicate 82 (0 : UInt8)).length =
      (a.base.fields.flatMap Prod.snd).length := by
    rw [a.base.flatMap_fields, MintBase.layout.length_write, List.length_replicate]
    rfl
  have hput := putFields_append a.base.fields [] (List.replicate 82 0) [] a.base.sideBySide_fields
    hgap
  rw [List.append_nil, List.append_nil, a.base.flatMap_fields] at hput
  exact congrArg (· ++ tail a.extensions) hput

/-- The supply, the decimals and the byte of an initialized mint stand side by side. -/
theorem take_drop_bytes :
    (a.bytes.drop 36).take 10 = leBytes 8 a.base.supply.toNat ++ [a.base.decimals, 1] := by
  have hsplit : a.bytes = leBytes 4 a.base.authorityTag.toNat ++ a.base.authority.bytes ++
      (leBytes 8 a.base.supply.toNat ++ [a.base.decimals, a.base.initialized] ++
        (leBytes 4 a.base.freezeTag.toNat ++ a.base.freezeAuthority.bytes ++
          tail a.extensions)) := by
    rw [a.bytes_eq, ← a.base.flatMap_fields]
    simp only [MintBase.fields, List.flatMap_cons, List.flatMap_nil, List.append_nil,
      List.append_assoc, List.cons_append, List.nil_append]
  have hfront : (leBytes 4 a.base.authorityTag.toNat ++ a.base.authority.bytes).length = 36 := by
    rw [List.length_append, length_leBytes, a.base.authority.length_bytes]
  have hmiddle :
      (leBytes 8 a.base.supply.toNat ++ [a.base.decimals, a.base.initialized]).length = 10 := by
    rw [List.length_append, length_leBytes]
    rfl
  rw [hsplit, List.drop_left' hfront, List.take_left' hmiddle, a.initialized_eq]

/-- Accounts that agree on the bytes of the supply and the decimals agree on both. -/
theorem eq_of_bytes {a a' : MintAccount}
    (h : ∀ i, 36 ≤ i → i < 45 → a.bytes[i]? = a'.bytes[i]?) :
    a.base.supply = a'.base.supply ∧ a.base.decimals = a'.base.decimals := by
  have hslice : (a.bytes.drop 36).take 9 = (a'.bytes.drop 36).take 9 := by
    apply List.ext_getElem?
    intro i
    by_cases hi : i < 9
    · rw [List.getElem?_take_of_lt hi, List.getElem?_take_of_lt hi, List.getElem?_drop,
        List.getElem?_drop]
      exact h (36 + i) (by omega) (by omega)
    · rw [List.getElem?_take_eq_none (by omega), List.getElem?_take_eq_none (by omega)]
  have hspelled (a : MintAccount) : (a.bytes.drop 36).take 9 =
      leBytes 8 a.base.supply.toNat ++ [a.base.decimals] := by
    have htake : (a.bytes.drop 36).take 9 = ((a.bytes.drop 36).take 10).take 9 := by
      rw [List.take_take]
      rfl
    rw [htake, a.take_drop_bytes]
    rfl
  rw [hspelled, hspelled] at hslice
  obtain ⟨hsupply, hdecimals⟩ := List.append_inj' hslice rfl
  refine ⟨?_, (List.cons.inj hdecimals).1⟩
  rw [← Layout.word64.read_eq_of_write a.base.supply rfl (length_leBytes _ _)]
  exact Layout.word64.read_eq_of_write a'.base.supply hsupply (length_leBytes _ _)

theorem initialized_of_bytes : a.bytes[45]? = some 1 := by
  have hbyte : ((a.bytes.drop 36).take 10)[9]? = a.bytes[45]? := by
    rw [List.getElem?_take_of_lt (by omega), List.getElem?_drop]
  rw [← hbyte, a.take_drop_bytes]
  rfl

/-- An account that goes on behind its base has the type of a mint. -/
theorem type_of_bytes (h : 82 < a.bytes.length) : a.bytes[165]? = some 1 := by
  have hbase : (MintBase.layout.write a.base).length = 82 := MintBase.layout.length_write _
  rw [bytes_eq] at h ⊢
  rw [List.getElem?_append_right (by omega), hbase]
  cases htail : a.extensions with
  | none =>
    rw [htail, List.length_append, hbase] at h
    exact absurd h (Nat.lt_irrefl 82)
  | some extensions =>
    have hzeros : (List.replicate 83 (0 : UInt8)).length = 83 := List.length_replicate
    change (List.replicate 83 0 ++ 1 :: extensions)[83]? = some 1
    rw [List.getElem?_append_right (by omega), hzeros]
    rfl

end MintAccount

/-- The byte strings that are read as mints are the accounts of mints. -/
theorem readMint_eq_ok_iff_exists {data : Bytes} {base : MintBase} :
    readMint data = .ok base ↔
      data.length ≠ 355 ∧ ∃ a : MintAccount, a.bytes = data ∧ a.base = base := by
  have hsize : MintBase.layout.size = 82 := rfl
  rw [readMint_eq_ok_iff, MintBase.check_eq_ok_iff, checkMintTail_eq_ok_iff]
  constructor
  · rintro ⟨hlength, hread, ⟨hauthority, hfreeze, hinitialized⟩, extensions, htail⟩
    refine ⟨hlength, ⟨base, extensions, hauthority, hfreeze, hinitialized⟩, ?_, rfl⟩
    obtain ⟨_, hwrite⟩ := MintBase.layout.write_of_readAt? hread
    rw [MintAccount.bytes_eq, hwrite, ← htail, hsize]
    exact List.take_append_drop 82 data
  · rintro ⟨hlength, a, rfl, rfl⟩
    have hread := MintBase.layout.readAt?_write [] (MintAccount.tail a.extensions) a.base
    have hrest : a.bytes.drop 82 = MintAccount.tail a.extensions := by
      rw [a.bytes_eq]
      exact List.drop_left' (MintBase.layout.length_write _)
    rw [List.nil_append, ← a.bytes_eq] at hread
    exact ⟨hlength, hread, ⟨a.authorityTag_le, a.freezeTag_le, a.initialized_eq⟩,
      a.extensions, hrest⟩

section Decoding

variable {address : Address} {data : Bytes}

theorem decodeMint_eq_ok_iff {m : DecodedMint} :
    decodeMint address data = .ok m ↔
      ∃ base, readMint data = .ok base ∧ m = ⟨address, base.decimals, base.supply⟩ := by
  unfold decodeMint
  split
  · next hread =>
    rw [hread]
    refine ⟨nofun, ?_⟩
    rintro ⟨_, h, _⟩
    exact nomatch h
  · next base hread =>
    rw [hread]
    constructor
    · intro h
      exact ⟨base, rfl, (Except.ok.inj h).symm⟩
    · rintro ⟨_, h, rfl⟩
      rw [Except.ok.inj h]

theorem decodeMint_eq_ok_iff_exists {m : DecodedMint} :
    decodeMint address data = .ok m ↔ data.length ≠ 355 ∧
      ∃ a : MintAccount, a.bytes = data ∧ m = ⟨address, a.base.decimals, a.base.supply⟩ := by
  rw [decodeMint_eq_ok_iff]
  constructor
  · rintro ⟨base, hread, rfl⟩
    obtain ⟨hlength, a, hdata, rfl⟩ := readMint_eq_ok_iff_exists.mp hread
    exact ⟨hlength, a, hdata, rfl⟩
  · rintro ⟨hlength, a, hdata, rfl⟩
    exact ⟨a.base, readMint_eq_ok_iff_exists.mpr ⟨hlength, a, hdata, rfl⟩, rfl⟩

/-- Whatever is not decoded is an invalid mint at the address that was asked for. -/
theorem decodeMint_eq_error (h : ∀ m, decodeMint address data ≠ .ok m) :
    ∃ fault : MintFault,
      decodeMint address data = .error (.invalidMint address fault.message) := by
  unfold decodeMint at h ⊢
  split
  · next fault _ => exact ⟨fault, rfl⟩
  · next base hread =>
    rw [hread] at h
    exact absurd rfl (h _)

end Decoding

/-- The account of a mint is decoded to the supply and the decimals that are written in it, unless it
has the size of a multisig, and every other byte string is an invalid mint at its address. No account
of a multisig is decoded, none that is not initialized, and none that goes on behind its base without
the type of a mint, as a token account does: it ends before the type or has another one. The result
hangs on the bytes 36 to 44 alone. -/
theorem decodeMint_bytes (address : Address) :
    (∀ a : MintAccount, a.bytes.length ≠ 355 →
      decodeMint address a.bytes = .ok ⟨address, a.base.decimals, a.base.supply⟩) ∧
    (∀ data, (data.length = 355 ∨ ∀ a : MintAccount, a.bytes ≠ data) → ∃ fault : MintFault,
      decodeMint address data = .error (.invalidMint address fault.message)) ∧
    (∀ data : Bytes, (data.length = 355 ∨ data[45]? ≠ some 1 ∨
        82 < data.length ∧ data[165]? ≠ some 1) → ∃ fault : MintFault,
      decodeMint address data = .error (.invalidMint address fault.message)) ∧
    (∀ data data' m m', decodeMint address data = .ok m → decodeMint address data' = .ok m' →
      (∀ i, 36 ≤ i → i < 45 → data[i]? = data'[i]?) → m = m') := by
  have hrejected (data : Bytes) (h : data.length = 355 ∨ ∀ a : MintAccount, a.bytes ≠ data) :
      ∃ fault : MintFault,
        decodeMint address data = .error (.invalidMint address fault.message) := by
    apply decodeMint_eq_error
    intro m hm
    obtain ⟨hlength, a, hdata, _⟩ := decodeMint_eq_ok_iff_exists.mp hm
    rcases h with h | h
    · exact hlength h
    · exact h a hdata
  refine ⟨?_, hrejected, ?_, ?_⟩
  · intro a hlength
    exact decodeMint_eq_ok_iff_exists.mpr ⟨hlength, a, rfl, rfl⟩
  · intro data h
    apply hrejected
    rcases h with h | h | ⟨hlong, htype⟩
    · exact Or.inl h
    · right
      rintro a rfl
      exact h a.initialized_of_bytes
    · right
      rintro a rfl
      exact htype (a.type_of_bytes hlong)
  · intro data data' m m' h h' hbytes
    obtain ⟨_, a, rfl, rfl⟩ := decodeMint_eq_ok_iff_exists.mp h
    obtain ⟨_, a', rfl, rfl⟩ := decodeMint_eq_ok_iff_exists.mp h'
    obtain ⟨hsupply, hdecimals⟩ := MintAccount.eq_of_bytes hbytes
    rw [hsupply, hdecimals]

section Extended

/-- A mint without a mint authority, whose key is kept, and with a freeze authority. -/
def freezableMint : MintBase where
  authorityTag := 0
  authority := .wrappedSol
  supply := 0x0102030405060708
  decimals := 6
  initialized := 1
  freezeTag := 1
  freezeAuthority := .wrappedSol

def extendedMint : MintAccount where
  base := freezableMint
  extensions := some [3, 0, 32, 0]
  authorityTag_le := by decide
  freezeTag_le := by decide
  initialized_eq := rfl

/-- The same mint with its authority, and without extensions. -/
def ownedMint : MintAccount where
  base := { freezableMint with authorityTag := 1 }
  extensions := none
  authorityTag_le := by decide
  freezeTag_le := by decide
  initialized_eq := rfl

theorem decodeMint_bytes_of_extended :
    ∃ m, decodeMint .wrappedSol extendedMint.bytes = .ok m ∧
      decodeMint .wrappedSol ownedMint.bytes = .ok m ∧
      m.decimals = 6 ∧ m.supply = 0x0102030405060708 ∧
      (∃ fault : MintFault, decodeMint .wrappedSol (extendedMint.bytes.set 45 0) =
        .error (.invalidMint .wrappedSol fault.message)) ∧
      (∃ fault : MintFault, decodeMint .wrappedSol (extendedMint.bytes.take 165) =
        .error (.invalidMint .wrappedSol fault.message)) ∧
      (∃ fault : MintFault, decodeMint .wrappedSol (extendedMint.bytes.set 165 2) =
        .error (.invalidMint .wrappedSol fault.message)) ∧
      ∃ fault : MintFault, decodeMint .wrappedSol (extendedMint.bytes ++ List.replicate 185 0) =
        .error (.invalidMint .wrappedSol fault.message) := by
  obtain ⟨hwritten, _, hother, hagree⟩ := decodeMint_bytes .wrappedSol
  have hextended := hwritten extendedMint (by decide +kernel)
  have howned := hwritten ownedMint (by decide +kernel)
  have hbytes : ∀ i, 36 ≤ i → i < 45 → extendedMint.bytes[i]? = ownedMint.bytes[i]? := by
    have hall : ∀ i : Fin 45, 36 ≤ i.val →
        extendedMint.bytes[i.val]? = ownedMint.bytes[i.val]? := by
      decide +kernel
    exact fun i hfrom hto => hall ⟨i, hto⟩ hfrom
  have hsame := hagree _ _ _ _ hextended howned hbytes
  refine ⟨_, hextended, hsame ▸ howned, rfl, rfl, ?_, ?_, ?_, ?_⟩
  · exact hother _ (Or.inr (Or.inl (by decide +kernel)))
  · exact hother _ (Or.inr (Or.inr (by decide +kernel)))
  · exact hother _ (Or.inr (Or.inr (by decide +kernel)))
  · exact hother _ (Or.inl (by decide +kernel))

end Extended

end SerumDex
