import SerumDex.Json.Parser

namespace SerumDex.Json

/-- The values of the members with a key. -/
def valuesOf (key : String) (members : List (Option String × Json)) : List Json :=
  (members.filter fun m => m.1 == some key).map Prod.snd

/-- The only value under a key. -/
def onlyValue? (members : List (Option String × Json)) (key : String) : Option Json :=
  match valuesOf key members with
  | [v] => some v
  | _ => none

/-- The values of the named fields, in the order of the names. -/
def fields? (names : List String) : Json → Option (List Json)
  | .array items => if items.length = names.length then some items else none
  | .object members =>
    let members := members.map fun m => (literalText? m.1, m.2)
    if members.all fun m => m.1.isSome then names.mapM (onlyValue? members) else none
  | _ => none

/-- A natural number below a bound. -/
def natBelow? (bound : Nat) (v : Json) : Option Nat := do
  let n ← v.asNat?
  if n < bound then some n else none

def word8? (v : Json) : Option UInt8 := (v.natBelow? UInt8.size).map UInt8.ofNat

def word64? (v : Json) : Option UInt64 := (v.natBelow? UInt64.size).map UInt64.ofNat

end SerumDex.Json
