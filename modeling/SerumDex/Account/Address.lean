import SerumDex.Bytes.Layout
import SerumDex.Text.Base58

namespace SerumDex

structure Address where
  bytes : Bytes
  length_bytes : bytes.length = 32
  deriving DecidableEq

inductive AddressError where
  | wrongSize
  | invalidBase58
  deriving DecidableEq

namespace AddressError

def message : AddressError → String
  | wrongSize => "String is the wrong size"
  | invalidBase58 => "Invalid Base58 string"

end AddressError

namespace Address

def text (a : Address) : String := Base58.encode a.bytes

/-- The most base58 digits that 32 bytes can take. -/
def maxTextSize : Nat := 44

/-- Reads a base58 address. A text too long for any address is refused before its digits are
looked at. -/
def ofText (s : String) : Except AddressError Address :=
  if maxTextSize < s.utf8ByteSize then .error .wrongSize
  else match Base58.decode? s with
    | none => .error .invalidBase58
    | some bs => if h : bs.length = 32 then .ok ⟨bs, h⟩ else .error .wrongSize

def layout : Layout Address :=
  (Layout.block 32).via (fun b => ⟨b.bytes, b.length_bytes⟩) (fun a => ⟨a.bytes, a.length_bytes⟩)
    (fun _ => rfl) (fun _ => rfl)

/-- The address of the wrapped SOL mint, `So11111111111111111111111111111111111111112`. -/
def wrappedSol : Address where
  bytes := [0x06, 0x9b, 0x88, 0x57, 0xfe, 0xab, 0x81, 0x84, 0xfb, 0x68, 0x7f, 0x63, 0x46, 0x18,
    0xc0, 0x35, 0xda, 0xc4, 0x39, 0xdc, 0x1a, 0xeb, 0x3b, 0x55, 0x98, 0xa0, 0xf0, 0x00, 0x00,
    0x00, 0x00, 0x01]
  length_bytes := rfl

end Address

end SerumDex
