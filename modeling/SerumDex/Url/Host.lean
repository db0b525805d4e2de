import SerumDex.Url.Domain
import SerumDex.Url.Encode

namespace SerumDex.Url

inductive Host where
  | domain (name : String)
  | version4 (number : Nat)
  | version6 (pieces : List Nat)
  deriving DecidableEq

def digitsValue (base : Nat) (cs : List Char) : Option Nat :=
  cs.foldlM (fun n c => do
    let d ← Hex.digit? c
    if d < base then some (n * base + d) else none) 0

/-- One part of a 32-bit address: decimal, octal behind a zero, or hexadecimal behind `0x`. -/
def part4? : List Char → Option Nat
  | [] => none
  | '0' :: 'x' :: cs => digitsValue 16 cs
  | '0' :: 'X' :: cs => digitsValue 16 cs
  | '0' :: c :: cs => digitsValue 8 (c :: cs)
  | cs => digitsValue 10 cs

def parts4 (name : List Char) : List (List Char) :=
  let parts := ((String.ofList name).splitOn ".").map String.toList
  if parts.getLast? == some [] then parts.dropLast else parts

/-- Whether the last part of a name is a number. Such a name is an address or nothing. -/
def endsInNumber (name : List Char) : Bool :=
  match (parts4 name).getLast? with
  | some part => !part.isEmpty && part.all Char.isDigit || (part4? part).isSome
  | none => false

/-- A 32-bit address: the last part fills the bytes that the ones before it leave. -/
def version4? (name : List Char) : Option Nat := do
  let parts := parts4 name
  if 4 < parts.length then none
  let numbers ← parts.mapM part4?
  let last ← numbers.getLast?
  let front := numbers.dropLast
  if front.any fun n => 255 < n then none
  if 1 <<< (8 * (4 - front.length)) ≤ last then none
  return (front.mapIdx fun i n => n <<< (8 * (3 - i))).foldl Nat.add last

def piece6? (cs : List Char) : Option Nat :=
  if cs.isEmpty || 4 < cs.length then none else digitsValue 16 cs

/-- A 32-bit address at the end of a 128-bit one: four decimal bytes without leading zeros. -/
def tail4? (cs : List Char) : Option (List Nat) := do
  let bytes ← ((String.ofList cs).splitOn ".").mapM fun part => do
    let ds := part.toList
    if ds.isEmpty || 1 < ds.length && ds.head? == some '0' then none
    let n ← digitsValue 10 ds
    if n ≤ 255 then some n else none
  match bytes with
  | [a, b, c, d] => some [a * 256 + b, c * 256 + d]
  | _ => none

/-- Pieces with colons between them; the last one may be a 32-bit address. -/
def pieces6? (mayEnd4 : Bool) (s : String) : Option (List Nat) :=
  if s.isEmpty then some []
  else
    let parts := (s.splitOn ":").map String.toList
    let front := parts.dropLast
    let last := parts.getLast?.getD []
    do
      let front ← front.mapM piece6?
      let last ← if mayEnd4 && last.contains '.' then tail4? last else (piece6? last).map fun n => [n]
      return front ++ last

/-- A 128-bit address. Two colons stand for as many zeros as are missing, of which there is one at
least. -/
def version6? (cs : List Char) : Option (List Nat) :=
  match (String.ofList cs).splitOn "::" with
  | [all] => do
    let pieces ← pieces6? true all
    if pieces.length = 8 then some pieces else none
  | [front, back] => do
    let front ← pieces6? false front
    let back ← pieces6? true back
    let given := front.length + back.length
    if given < 8 then some (front ++ List.replicate (8 - given) 0 ++ back) else none
  | _ => none

def leadingZeros (pieces : List Nat) : Nat := (pieces.takeWhile fun n => n = 0).length

def longestZeros (pieces : List Nat) : Nat × Nat :=
  (List.range pieces.length).foldl (fun best i =>
    let n := leadingZeros (pieces.drop i)
    if best.2 < n then (i, n) else best) (0, 0)

def hexText (n : Nat) : String :=
  match (Hex.ofNat 4 n).toList.dropWhile (· == '0') with
  | [] => "0"
  | cs => String.ofList cs

def version6Text (pieces : List Nat) : String :=
  let join (ns : List Nat) : String := ":".intercalate (ns.map hexText)
  let (start, count) := longestZeros pieces
  if count < 2 then join pieces
  else join (pieces.take start) ++ "::" ++ join (pieces.drop (start + count))

namespace Host

def text : Host → String
  | domain name => name
  | version4 n =>
    ".".intercalate ([24, 16, 8, 0].map fun shift => Nat.repr (n >>> shift % 256))
  | version6 pieces => "[" ++ version6Text pieces ++ "]"

/-- A 128-bit address in brackets, or else what `other` makes of a host. -/
def ofBrackets? (other : List Char → Option Host) (cs : List Char) : Option Host :=
  match cs with
  | '[' :: rest =>
    if rest.getLast? == some ']' then (version6? rest.dropLast).map version6 else none
  | _ => other cs

/-- A host of one of the schemes whose hosts are looked up. -/
def special? : List Char → Option Host :=
  ofBrackets? fun cs => do
    let name ← asciiDomain? (← decode? cs)
    if name.isEmpty then none
    else if endsInNumber name then (version4? name).map version4
    else some (domain (String.ofList name))

/-- A host of another scheme, which is kept as it is. -/
def other? : List Char → Option Host :=
  ofBrackets? fun cs =>
    if cs.any fun c => "\x00\x09\x0a\x0d #/:<>?@[\\]^|".toList.contains c then none
    else some (domain (String.ofList (encodeWith controlSet cs)))

end Host

end SerumDex.Url
