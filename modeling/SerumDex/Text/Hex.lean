import SerumDex.Bytes.Basic

namespace SerumDex.Hex

def digit (n : Nat) : Char :=
  if n < 10 then Char.ofNat ('0'.toNat + n) else Char.ofNat ('a'.toNat + (n - 10))

/-- The value of a hexadecimal digit of either case. -/
def digit? (c : Char) : Option Nat :=
  if '0' ≤ c ∧ c ≤ '9' then some (c.toNat - '0'.toNat)
  else if 'a' ≤ c ∧ c ≤ 'f' then some (c.toNat - 'a'.toNat + 10)
  else if 'A' ≤ c ∧ c ≤ 'F' then some (c.toNat - 'A'.toNat + 10)
  else none

def encodeChars (bs : Bytes) : List Char :=
  bs.flatMap fun b => [digit (b.toNat / 16), digit (b.toNat % 16)]

def encode (bs : Bytes) : String := String.ofList (encodeChars bs)

def decodeChars? : List Char → Option Bytes
  | [] => some []
  | [_] => none
  | hi :: lo :: cs => do
    let hi ← digit? hi
    let lo ← digit? lo
    let bs ← decodeChars? cs
    return UInt8.ofNat (16 * hi + lo) :: bs

def decode? (s : String) : Option Bytes := decodeChars? s.toList

/-- The `k` low hexadecimal digits of a number, most significant first. -/
def ofNat (k n : Nat) : String :=
  String.ofList ((List.range k).map fun i => digit (n >>> (4 * (k - 1 - i)) % 16))

end SerumDex.Hex
