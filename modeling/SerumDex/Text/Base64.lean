import SerumDex.Bytes.Basic

namespace SerumDex.Base64

def alphabet : List Char :=
  "ABCDEFGHIJKLMNOPQRSTUVWXYZabcdefghijklmnopqrstuvwxyz0123456789+/".toList

/-- The symbol of six bits, as a byte. -/
def symbol (n : Nat) : UInt8 :=
  if n < 26 then UInt8.ofNat (65 + n)
  else if n < 52 then UInt8.ofNat (97 + (n - 26))
  else if n < 62 then UInt8.ofNat (48 + (n - 52))
  else if n = 62 then 43
  else 47

/-- The six bits of a symbol. -/
def bits? (b : UInt8) : Option Nat :=
  let n := b.toNat
  if 65 ≤ n ∧ n ≤ 90 then some (n - 65)
  else if 97 ≤ n ∧ n ≤ 122 then some (n - 97 + 26)
  else if 48 ≤ n ∧ n ≤ 57 then some (n - 48 + 52)
  else if n = 43 then some 62
  else if n = 47 then some 63
  else none

def pad : UInt8 := 61

/-- The bytes of the text of a byte string. -/
def encode : Bytes → Bytes
  | a :: b :: c :: rest =>
    let n := (a.toNat * 256 + b.toNat) * 256 + c.toNat
    symbol (n / 262144) :: symbol (n / 4096 % 64) :: symbol (n / 64 % 64) :: symbol (n % 64)
      :: encode rest
  | [a, b] =>
    let n := (a.toNat * 256 + b.toNat) * 4
    [symbol (n / 4096), symbol (n / 64 % 64), symbol (n % 64), pad]
  | [a] =>
    let n := a.toNat * 16
    [symbol (n / 64), symbol (n % 64), pad, pad]
  | [] => []

inductive Fault where
  | invalidSymbol (byte : UInt8) (offset : Nat)
  | invalidLength (length : Nat)
  | invalidLastSymbol (byte : UInt8) (offset : Nat)
  | invalidPadding
  deriving DecidableEq

def Fault.message : Fault → String
  | invalidSymbol byte offset =>
    "Invalid symbol " ++ byte.toNat.repr ++ ", offset " ++ offset.repr ++ "."
  | invalidLength length => "Invalid input length: " ++ length.repr
  | invalidLastSymbol byte offset =>
    "Invalid last symbol " ++ byte.toNat.repr ++ ", offset " ++ offset.repr ++ "."
  | invalidPadding => "Invalid padding"

/-- The bits of the symbol at an offset. -/
def bitsAt (offset : Nat) (b : UInt8) : Except Fault Nat :=
  match bits? b with
  | some n => .ok n
  | none => .error (.invalidSymbol b offset)

/-- The three bytes of 24 bits. -/
def threeBytes (n : Nat) : Bytes :=
  [UInt8.ofNat (n / 65536), UInt8.ofNat (n / 256 % 256), UInt8.ofNat (n % 256)]

/-- The last group, at an offset: it may hold fewer symbols, and then padding fills it up. Padding
that stands too early or has a symbol behind it counts as a wrong symbol itself. -/
def decodeLast (offset : Nat) : Bytes → Except Fault Bytes
  | [] => .ok []
  | [a] => do
    let _ ← bitsAt offset a
    throw (.invalidLength (offset + 1))
  | a :: b :: tail => do
    let x ← bitsAt offset a
    let y ← bitsAt (offset + 1) b
    match tail with
    -- Three symbols or fewer are not filled up.
    | [] => throw .invalidPadding
    | [c] =>
      if c = pad then throw .invalidPadding
      let _ ← bitsAt (offset + 2) c
      throw .invalidPadding
    | c :: d :: _ =>
      if c = pad then
        if d = pad then
          -- One byte takes two symbols, and the last four bits have to be zero.
          if y % 16 ≠ 0 then throw (.invalidLastSymbol b (offset + 1))
          return [UInt8.ofNat ((x * 64 + y) / 16)]
        else throw (.invalidSymbol pad (offset + 2))
      else
        let z ← bitsAt (offset + 2) c
        if d = pad then
          -- Two bytes take three symbols, and the last two bits have to be zero.
          if z % 4 ≠ 0 then throw (.invalidLastSymbol c (offset + 2))
          let n := ((x * 64 + y) * 64 + z) / 4
          return [UInt8.ofNat (n / 256), UInt8.ofNat (n % 256)]
        else
          let w ← bitsAt (offset + 3) d
          return threeBytes (((x * 64 + y) * 64 + z) * 64 + w)

/-- Groups of four symbols, the first one at an offset; the last group is the one that nothing
follows. -/
def decodeFrom (offset : Nat) : Bytes → Except Fault Bytes
  | a :: b :: c :: d :: e :: rest => do
    let x ← bitsAt offset a
    let y ← bitsAt (offset + 1) b
    let z ← bitsAt (offset + 2) c
    let w ← bitsAt (offset + 3) d
    let bs ← decodeFrom (offset + 4) (e :: rest)
    return threeBytes (((x * 64 + y) * 64 + z) * 64 + w) ++ bs
  | last => decodeLast offset last

/-- A stray symbol behind whole groups is reported first if it is no symbol of the alphabet. -/
def checkStray (text : Bytes) : Except Fault Unit :=
  if text.length % 4 = 1 then
    match text.getLast? with
    | some b => if b ≠ pad ∧ bits? b = none then .error (.invalidSymbol b (text.length - 1)) else .ok ()
    | none => .ok ()
  else .ok ()

/-- Only the text that some bytes are encoded to is accepted; any other is refused with the place where
it goes wrong. -/
def decode (text : Bytes) : Except Fault Bytes := do
  checkStray text
  decodeFrom 0 text

end SerumDex.Base64
