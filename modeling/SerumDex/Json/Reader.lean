import SerumDex.Json.Value

namespace SerumDex.Json

inductive ReadFault where
  | invalidType (found expected : String)
  | invalidValue (found expected : String)
  | invalidLength (length : Nat) (expected : String)
  | missingField (name : String)
  | noVariant (union : String)
  | malformed (reason : String)
  deriving DecidableEq

/-- A name between backquotes. -/
def backquoted (s : String) : String := "\x60" ++ s ++ "\x60"

def ReadFault.message : ReadFault → String
  | invalidType found expected => "invalid type: " ++ found ++ ", expected " ++ expected
  | invalidValue found expected => "invalid value: " ++ found ++ ", expected " ++ expected
  | invalidLength length expected =>
    "invalid length " ++ length.repr ++ ", expected " ++ expected
  | missingField name => "missing field " ++ backquoted name
  | noVariant union => "data did not match any variant of untagged enum " ++ union
  | malformed reason => reason

namespace Value

/-- What kind of value this is, with the value itself if it is short. -/
def kind : Value → String
  | .null => "null"
  | .bool true => "boolean " ++ backquoted "true"
  | .bool false => "boolean " ++ backquoted "false"
  | .number (.float x) => "floating point " ++ backquoted (Number.float x).literal
  | .number n => "integer " ++ backquoted n.literal
  | .string s => "string " ++ Text.quote s
  | .array _ => "sequence"
  | .object _ => "map"

def readText : Value → Except ReadFault String
  | .string s => .ok s
  | v => .error (.invalidType v.kind "a string")

def readBool : Value → Except ReadFault Bool
  | .bool b => .ok b
  | v => .error (.invalidType v.kind "a boolean")

/-- An unsigned number of 64 bits. -/
def readWord64 : Value → Except ReadFault UInt64
  | .number (.natural n) => .ok (UInt64.ofNat n)
  | v@(.number (.negative _)) => .error (.invalidValue v.kind "u64")
  | v => .error (.invalidType v.kind "u64")

/-- A signed number of 64 bits. -/
def readInt64 : Value → Except ReadFault Int
  | v@(.number (.natural n)) => if n < UInt64.size / 2 then .ok n else .error (.invalidValue v.kind "i64")
  | .number (.negative n) => .ok (-(n : Int))
  | v => .error (.invalidType v.kind "i64")

def readOption {α : Type} (read : Value → Except ReadFault α) : Value → Except ReadFault (Option α)
  | .null => .ok none
  | v => some <$> read v

/-- The field of an object, if it is there. -/
def readMember {α : Type} (read : Value → Except ReadFault α) (name : String)
    (members : List (String × Value)) : Except ReadFault (Option α) :=
  match members.lookup name with
  | some v => some <$> read v
  | none => .ok none

/-- A field that has to be there. -/
def required {α : Type} (name : String) : Option α → Except ReadFault α
  | some a => .ok a
  | none => .error (.missingField name)

/-- The item at a place of an array that stands for a record of `size` fields. -/
def readItem {α : Type} (read : Value → Except ReadFault α) (record : String) (size place : Nat)
    (items : List Value) : Except ReadFault α :=
  match items[place]? with
  | some v => read v
  | none =>
    .error (.invalidLength place ("struct " ++ record ++ " with " ++ size.repr ++ " elements"))

/-- Nothing may be left over behind the fields. -/
def readEnd (size : Nat) (items : List Value) : Except ReadFault Unit :=
  if size < items.length then .error (.invalidLength items.length "fewer elements in array")
  else .ok ()

end Value

end SerumDex.Json
