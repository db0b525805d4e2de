import SerumDex.Bytes.Basic
import SerumDex.Text.Radix

namespace SerumDex.Base58

def alphabet : List Char := "123456789ABCDEFGHJKLMNPQRSTUVWXYZabcdefghijkmnopqrstuvwxyz".toList

def digit (n : Nat) : Char := alphabet.getD n '1'

def digit? (c : Char) : Option Nat := alphabet.idxOf? c

/-- The digits in base `target` of the number with big-endian digits `ds` in base `base`, a leading
zero for each leading zero of `ds`. `room` bounds how many digits in base `target` one digit takes. -/
def rebase (base target room : Nat) (ds : List Nat) : List Nat :=
  let zeros := ds.takeWhile (· == 0)
  let n := Radix.value base ds.reverse
  zeros ++ (Radix.digits target (room * ds.length) n).reverse.dropWhile (· == 0)

def encodeChars (bs : Bytes) : List Char := (rebase 256 58 2 (bs.map UInt8.toNat)).map digit

def encode (bs : Bytes) : String := String.ofList (encodeChars bs)

def decodeChars? (cs : List Char) : Option Bytes := do
  let ds ← cs.mapM digit?
  return (rebase 58 256 1 ds).map UInt8.ofNat

def decode? (s : String) : Option Bytes := decodeChars? s.toList

end SerumDex.Base58
