import SerumDex.Json.Basic

namespace SerumDex.Json

def quoted (literal : String) : String := "\"" ++ literal ++ "\""

mutual

def compact : Json → String
  | .null => "null"
  | .bool true => "true"
  | .bool false => "false"
  | .number literal => literal
  | .string literal => quoted literal
  | .array items => "[" ++ compactItems items ++ "]"
  | .object members => "\x7b" ++ compactMembers members ++ "\x7d"

def compactItems : List Json → String
  | [] => ""
  | [item] => item.compact
  | item :: items => item.compact ++ "," ++ compactItems items

def compactMembers : List (String × Json) → String
  | [] => ""
  | [(key, value)] => quoted key ++ ":" ++ value.compact
  | (key, value) :: members =>
    quoted key ++ ":" ++ value.compact ++ "," ++ compactMembers members

end

/-- A line break and the indentation of a level. -/
def newLine (level : Nat) : String := "\n" ++ String.ofList (List.replicate (2 * level) ' ')

mutual

/-- The value laid out over lines, its own first line standing at `level`; empty arrays and objects
stay on one line. -/
def prettyAt (level : Nat) : Json → String
  | .null => "null"
  | .bool true => "true"
  | .bool false => "false"
  | .number literal => literal
  | .string literal => quoted literal
  | .array [] => "[]"
  | .array (item :: items) =>
    "[" ++ newLine (level + 1) ++ prettyItems (level + 1) (item :: items) ++ newLine level ++ "]"
  | .object [] => "\x7b\x7d"
  | .object (member :: members) =>
    "\x7b" ++ newLine (level + 1) ++ prettyMembers (level + 1) (member :: members) ++ newLine level
      ++ "\x7d"

def prettyItems (level : Nat) : List Json → String
  | [] => ""
  | [item] => item.prettyAt level
  | item :: items => item.prettyAt level ++ "," ++ newLine level ++ prettyItems level items

def prettyMembers (level : Nat) : List (String × Json) → String
  | [] => ""
  | [(key, value)] => quoted key ++ ": " ++ value.prettyAt level
  | (key, value) :: members =>
    quoted key ++ ": " ++ value.prettyAt level ++ "," ++ newLine level
      ++ prettyMembers level members

end

def pretty (v : Json) : String := v.prettyAt 0

end SerumDex.Json
