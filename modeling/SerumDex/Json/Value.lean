import SerumDex.Decimal.Notation
import SerumDex.Json.Parser
import SerumDex.Json.Printer
import SerumDex.Text.Quoted

/-! The values that JSON texts stand for. Strings are decoded, whole numbers that fit 64 bits are
exact and other numbers are doubles, and an object is sorted by its keys, the last member with a key
winning. -/
namespace SerumDex

namespace Json

inductive Number where
  | natural (n : Nat)
  /-- The number `-n`. -/
  | negative (n : Nat)
  | float (x : Float)

/-- The sign, the digits before and after the point, and the exponent of a number literal. -/
structure NumberParts where
  isNegative : Bool
  whole : List Char
  fraction : Option (List Char)
  exponent : Option (Bool × List Char)

def NumberParts.ofLiteral (literal : String) : NumberParts :=
  let cs := literal.toList
  let isNegative := cs.head? == some '-'
  let cs := if isNegative then cs.drop 1 else cs
  let whole := cs.takeWhile Char.isDigit
  let cs := cs.dropWhile Char.isDigit
  let (fraction, cs) :=
    match cs with
    | '.' :: cs => (some (cs.takeWhile Char.isDigit), cs.dropWhile Char.isDigit)
    | cs => (none, cs)
  let exponent :=
    match cs with
    -- The letter is an `e` of either case.
    | _ :: '-' :: ds => some (true, ds)
    | _ :: '+' :: ds => some (false, ds)
    | _ :: ds => some (false, ds)
    | [] => none
  ⟨isNegative, whole, fraction, exponent⟩

/-- The double of a literal; nothing if it is too large for one. -/
def NumberParts.double? (p : NumberParts) : Option Float :=
  let fraction := p.fraction.getD []
  let shift : Int :=
    match p.exponent with
    | none => 0
    | some (isDown, ds) => if isDown then -decimalValue ds else decimalValue ds
  (Decimal.nearestDouble? (decimalValue (p.whole ++ fraction)) (shift - fraction.length)).map
    fun x => if p.isNegative then -x else x

/-- The number that a literal writes; nothing if it is too large for a double. -/
def number? (literal : String) : Option Number :=
  let p := NumberParts.ofLiteral literal
  if p.fraction.isNone && p.exponent.isNone then
    let n := decimalValue p.whole
    if p.isNegative then
      if 0 < n ∧ n ≤ UInt64.size / 2 then some (.negative n) else p.double?.map .float
    else if n < UInt64.size then some (.natural n)
    else p.double?.map .float
  else p.double?.map .float

inductive Value where
  | null
  | bool (value : Bool)
  | number (value : Number)
  | string (value : String)
  | array (items : List Value)
  | object (members : List (String × Value))

/-- Puts a member in its place among members sorted by key, over one with the same key. -/
def insertMember (key : String) (value : Value) : List (String × Value) → List (String × Value)
  | [] => [(key, value)]
  | (k, v) :: members =>
    if key < k then (key, value) :: (k, v) :: members
    else if key = k then (key, value) :: members
    else (k, v) :: insertMember key value members

mutual

/-- The value of a tree that nests at most `room` arrays and objects. -/
def valueWithin? (room : Nat) : Json → Option Value
  | .null => some .null
  | .bool b => some (.bool b)
  | .number literal => (number? literal).map .number
  | .string literal => (literalText? literal).map .string
  | .array items => if room = 0 then none else (itemsWithin? (room - 1) items).map .array
  | .object members => if room = 0 then none else (membersWithin? (room - 1) members []).map .object

def itemsWithin? (room : Nat) : List Json → Option (List Value)
  | [] => some []
  | item :: items => do
    let item ← item.valueWithin? room
    let items ← itemsWithin? room items
    return item :: items

/-- The members put one after the other among those already sorted. -/
def membersWithin? (room : Nat) :
    List (String × Json) → List (String × Value) → Option (List (String × Value))
  | [], sorted => some sorted
  | (key, value) :: members, sorted => do
    let key ← literalText? key
    let value ← value.valueWithin? room
    membersWithin? room members (insertMember key value sorted)

end

/-- How deep arrays and objects may nest in a value. -/
def maxDepth : Nat := 127

def value? (v : Json) : Option Value := v.valueWithin? maxDepth

def Number.literal : Number → String
  | natural n => n.repr
  | negative n => "-" ++ n.repr
  | float x => (Decimal.doubleText? x).getD "null"

namespace Value

def get? (key : String) : Value → Option Value
  | .object members => members.lookup key
  | _ => none

mutual

def toJson : Value → Json
  | .null => .null
  | .bool b => .bool b
  | .number n => .number n.literal
  | .string s => .text s
  | .array items => .array (itemsToJson items)
  | .object members => .object (membersToJson members)

def itemsToJson : List Value → List Json
  | [] => []
  | item :: items => item.toJson :: itemsToJson items

def membersToJson : List (String × Value) → List (String × Json)
  | [] => []
  | (key, value) :: members => (escape key, value.toJson) :: membersToJson members

end

mutual

/-- The value with the name of its kind, as messages show it. -/
def inspect : Value → String
  | .null => "Null"
  | .bool true => "Bool(true)"
  | .bool false => "Bool(false)"
  | .number n => "Number(" ++ n.literal ++ ")"
  | .string s => "String(" ++ Text.quote s ++ ")"
  | .array items => "Array [" ++ ", ".intercalate (inspectItems items) ++ "]"
  | .object members => "Object \x7b" ++ ", ".intercalate (inspectMembers members) ++ "\x7d"

def inspectItems : List Value → List String
  | [] => []
  | item :: items => item.inspect :: inspectItems items

def inspectMembers : List (String × Value) → List String
  | [] => []
  | (key, value) :: members => (Text.quote key ++ ": " ++ value.inspect) :: inspectMembers members

end

end Value

end Json

end SerumDex
