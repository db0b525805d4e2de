import SerumDex.Account.Error

/-! Token mints. A mint is its 82-byte base alone, or the base padded to the size of a token account
and followed by a byte that says it is a mint and by extensions. -/
namespace SerumDex

structure DecodedMint where
  address : Address
  decimals : UInt8
  supply : UInt64
  deriving DecidableEq

inductive MintFault where
  | invalidData
  | uninitialized
  deriving DecidableEq

def MintFault.message : MintFault → String
  | invalidData => "An account's data contents was invalid"
  | uninitialized => "An attempt to operate on an account that hasn't been initialized"

/-- The base of a mint account: each authority is a tag, and a key that counts if the tag is one. -/
structure MintBase where
  authorityTag : UInt32
  authority : Address
  supply : UInt64
  decimals : UInt8
  initialized : UInt8
  freezeTag : UInt32
  freezeAuthority : Address
  deriving DecidableEq

def MintBase.layout : Layout MintBase :=
  (Layout.word32.seq <| Address.layout.seq <| Layout.word64.seq <| Layout.word8.seq <|
    Layout.word8.seq <| Layout.word32.seq Address.layout).via
    (fun (authorityTag, authority, supply, decimals, initialized, freezeTag, freezeAuthority) =>
      ⟨authorityTag, authority, supply, decimals, initialized, freezeTag, freezeAuthority⟩)
    (fun b => (b.authorityTag, b.authority, b.supply, b.decimals, b.initialized, b.freezeTag,
      b.freezeAuthority))
    (fun _ => rfl) (fun _ => rfl)

/-- The size of a multisig account, which no mint may have. -/
def multisigSize : Nat := 355

/-- The size of a token account. Before its extensions a mint is padded with zeros up to here. -/
def tokenAccountSize : Nat := 165

/-- The byte behind the padding that says that the account is a mint. -/
def mintAccountType : UInt8 := 1

def MintBase.check (b : MintBase) : Except MintFault Unit :=
  if 1 < b.authorityTag ∨ 1 < b.initialized ∨ 1 < b.freezeTag then .error .invalidData
  else if b.initialized = 0 then .error .uninitialized
  else .ok ()

/-- What may follow the base: nothing, or zeros up to the size of a token account, the byte of a
mint, and anything. -/
def checkMintTail (rest : Bytes) : Except MintFault Unit :=
  let padding := tokenAccountSize - MintBase.layout.size
  if rest.isEmpty then .ok ()
  else if rest.take padding = List.replicate padding 0 ∧ rest[padding]? = some mintAccountType then
    .ok ()
  else .error .invalidData

def readMint (data : Bytes) : Except MintFault MintBase :=
  if data.length = multisigSize then .error .invalidData
  else match MintBase.layout.readAt? 0 data with
    | none => .error .invalidData
    | some base => do
      base.check
      checkMintTail (data.drop MintBase.layout.size)
      return base

def decodeMint (address : Address) (data : Bytes) : Except DecodeError DecodedMint :=
  match readMint data with
  | .error fault => .error (.invalidMint address fault.message)
  | .ok base => .ok ⟨address, base.decimals, base.supply⟩

/-- The decimals of wrapped SOL, which never change. -/
def wrappedSolDecimals : UInt8 := 9

def isWrappedSol (mint : Address) : Bool := mint = Address.wrappedSol

end SerumDex
