import SerumDex.Text.Hex

/-! JSON texts as trees. Numbers and strings are kept as written, so that a tree says exactly which
text it came from up to blanks; what a literal means is asked of the literal. -/
namespace SerumDex

inductive Json where
  | null
  | bool (value : Bool)
  | number (literal : String)
  /-- The characters between the quotes. -/
  | string (literal : String)
  | array (items : List Json)
  /-- The members in written order, a key that is given twice being there twice. -/
  | object (members : List (String × Json))

namespace Json

def escapeChar (c : Char) : List Char :=
  if c = '"' then ['\\', '"']
  else if c = '\\' then ['\\', '\\']
  else if c = '\x08' then ['\\', 'b']
  else if c = '\x09' then ['\\', 't']
  else if c = '\x0a' then ['\\', 'n']
  else if c = '\x0c' then ['\\', 'f']
  else if c = '\x0d' then ['\\', 'r']
  else if c.toNat < 32 then
    ['\\', 'u', '0', '0', Hex.digit (c.toNat / 16), Hex.digit (c.toNat % 16)]
  else [c]

def escape (s : String) : String := String.ofList (s.toList.flatMap escapeChar)

def text (s : String) : Json := .string (escape s)

def nat (n : Nat) : Json := .number n.repr

def int (z : Int) : Json := .number (if z < 0 then "-" ++ z.natAbs.repr else z.natAbs.repr)

def simpleEscape? (c : Char) : Option Char :=
  if c = '"' then some '"'
  else if c = '\\' then some '\\'
  else if c = '/' then some '/'
  else if c = 'b' then some '\x08'
  else if c = 'f' then some '\x0c'
  else if c = 'n' then some '\x0a'
  else if c = 'r' then some '\x0d'
  else if c = 't' then some '\x09'
  else none

def unit? (a b c d : Char) : Option Nat := do
  let a ← Hex.digit? a
  let b ← Hex.digit? b
  let c ← Hex.digit? c
  let d ← Hex.digit? d
  return ((a * 16 + b) * 16 + c) * 16 + d

/-- The character of a pair of surrogates. -/
def ofSurrogates (hi lo : Nat) : Char := Char.ofNat (0x10000 + (hi - 0xd800) * 0x400 + (lo - 0xdc00))

/-- What a string literal says; nothing if it names half of a pair of surrogates alone. -/
def unescape? : List Char → List Char → Option (List Char)
  | acc, [] => some acc.reverse
  | acc, '\\' :: 'u' :: a :: b :: c :: d :: '\\' :: 'u' :: e :: f :: g :: h :: cs => do
    let u ← unit? a b c d
    let v ← unit? e f g h
    -- A high surrogate takes the escape behind it; any other character leaves it alone.
    if 0xd800 ≤ u ∧ u < 0xdc00 then
      if 0xdc00 ≤ v ∧ v < 0xe000 then unescape? (ofSurrogates u v :: acc) cs else none
    else if 0xdc00 ≤ u ∧ u < 0xe000 then none
    else unescape? (Char.ofNat u :: acc) ('\\' :: 'u' :: e :: f :: g :: h :: cs)
  | acc, '\\' :: 'u' :: a :: b :: c :: d :: cs => do
    let u ← unit? a b c d
    if 0xd800 ≤ u ∧ u < 0xe000 then none else unescape? (Char.ofNat u :: acc) cs
  | acc, '\\' :: c :: cs => do
    let c ← simpleEscape? c
    unescape? (c :: acc) cs
  | acc, c :: cs => if c = '\\' then none else unescape? (c :: acc) cs
termination_by _ cs => cs.length

def literalText? (literal : String) : Option String :=
  (unescape? [] literal.toList).map String.ofList

def asText? : Json → Option String
  | .string literal => literalText? literal
  | _ => none

def asBool? : Json → Option Bool
  | .bool b => some b
  | _ => none

def decimalValue (cs : List Char) : Nat := cs.foldl (fun n c => n * 10 + (c.toNat - '0'.toNat)) 0

/-- The natural number that a literal without sign, point and exponent writes. -/
def asNat? : Json → Option Nat
  | .number literal =>
    let cs := literal.toList
    if cs.all Char.isDigit && !cs.isEmpty then some (decimalValue cs) else none
  | _ => none

def get? (key : String) : Json → Option Json
  | .object members =>
    (members.find? fun m => literalText? m.1 == some key).map Prod.snd
  | _ => none

end Json

end SerumDex
