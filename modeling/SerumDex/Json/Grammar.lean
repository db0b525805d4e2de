import SerumDex.Json.Parser
import SerumDex.Text.Parted

namespace SerumDex.Json

section Literals

def IsDigits (cs : List Char) : Prop := cs ≠ [] ∧ ∀ c ∈ cs, c.isDigit

/-- Digits without a leading zero, a zero alone being no leading one. -/
def IsWhole (cs : List Char) : Prop := cs = ['0'] ∨ IsDigits cs ∧ cs.head? ≠ some '0'

def IsFraction (cs : List Char) : Prop := cs = [] ∨ ∃ ds, IsDigits ds ∧ cs = '.' :: ds

def IsExponent (cs : List Char) : Prop :=
  cs = [] ∨ ∃ letter ∈ ['e', 'E'], ∃ sign ∈ [[], ['+'], ['-']], ∃ ds, IsDigits ds ∧
    cs = letter :: (sign ++ ds)

def IsUnsigned (cs : List Char) : Prop :=
  ∃ whole fraction exponent, IsWhole whole ∧ IsFraction fraction ∧ IsExponent exponent ∧
    cs = whole ++ fraction ++ exponent

def IsNumber (cs : List Char) : Prop := ∃ sign ∈ [[], ['-']], ∃ ds, IsUnsigned ds ∧ cs = sign ++ ds

def IsHex (c : Char) : Prop := '0' ≤ c ∧ c ≤ '9' ∨ 'a' ≤ c ∧ c ≤ 'f' ∨ 'A' ≤ c ∧ c ≤ 'F'

/-- What may stand between the quotes of a string. -/
inductive IsStringBody : List Char → Prop
  | nil : IsStringBody []
  | plain {c : Char} {cs : List Char} (printable : 32 ≤ c.toNat) (no_quote : c ≠ '"')
      (no_backslash : c ≠ '\\') (rest : IsStringBody cs) : IsStringBody (c :: cs)
  | escape {c : Char} {cs : List Char} (short : c ∈ ['"', '\\', '/', 'b', 'f', 'n', 'r', 't'])
      (rest : IsStringBody cs) : IsStringBody ('\\' :: c :: cs)
  | unit {a b c d : Char} {cs : List Char} (hex : ∀ x ∈ [a, b, c, d], IsHex x)
      (rest : IsStringBody cs) : IsStringBody ('\\' :: 'u' :: a :: b :: c :: d :: cs)

end Literals

section Trees

mutual

/-- The literals of the tree are numbers and strings of the grammar. -/
def WellFormed : Json → Prop
  | .null => True
  | .bool _ => True
  | .number literal => IsNumber literal.toList
  | .string literal => IsStringBody literal.toList
  | .array items => ItemsWellFormed items
  | .object members => MembersWellFormed members

def ItemsWellFormed : List Json → Prop
  | [] => True
  | item :: items => item.WellFormed ∧ ItemsWellFormed items

def MembersWellFormed : List (String × Json) → Prop
  | [] => True
  | (key, value) :: members =>
    IsStringBody key.toList ∧ value.WellFormed ∧ MembersWellFormed members

end

def stringToken (literal : String) : List Char := '"' :: literal.toList ++ ['"']

mutual

def tokens : Json → List (List Char)
  | .null => [['n', 'u', 'l', 'l']]
  | .bool true => [['t', 'r', 'u', 'e']]
  | .bool false => [['f', 'a', 'l', 's', 'e']]
  | .number literal => [literal.toList]
  | .string literal => [stringToken literal]
  | .array items => ['['] :: (itemTokens items ++ [[']']])
  | .object members => ['{'] :: (memberTokens members ++ [['}']])

def itemTokens : List Json → List (List Char)
  | [] => []
  | [item] => item.tokens
  | item :: items => item.tokens ++ [','] :: itemTokens items

def memberTokens : List (String × Json) → List (List Char)
  | [] => []
  | [(key, value)] => stringToken key :: [':'] :: value.tokens
  | (key, value) :: members =>
    stringToken key :: [':'] :: value.tokens ++ [','] :: memberTokens members

end

/-- The text writes the tree: the tokens stand in it in their order, with any blanks around them. -/
def Written (v : Json) (text : String) : Prop :=
  v.WellFormed ∧ Text.Parted isBlank v.tokens text.toList

end Trees

end SerumDex.Json
