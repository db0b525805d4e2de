import SerumDex.Json.Basic

/-! Reading JSON text. The grammar is the strict one: no comments, no trailing commas, blanks are
space, tab, line feed and carriage return, and nothing but blanks may surround the value. -/
namespace SerumDex.Json

def isBlank (c : Char) : Bool := c = ' ' || c = '\x0a' || c = '\x09' || c = '\x0d'

def skipBlanks (cs : List Char) : List Char := cs.dropWhile isBlank

def isHexDigit (c : Char) : Bool := (Hex.digit? c).isSome

/-- The literal of a string whose opening quote is read, and what follows the closing one. -/
def scanString (acc : List Char) : List Char → Option (String × List Char)
  | '"' :: cs => some (String.ofList acc.reverse, cs)
  | '\\' :: 'u' :: a :: b :: c :: d :: cs =>
    if isHexDigit a && isHexDigit b && isHexDigit c && isHexDigit d then
      scanString (d :: c :: b :: a :: 'u' :: '\\' :: acc) cs
    else none
  | '\\' :: c :: cs => if (simpleEscape? c).isSome then scanString (c :: '\\' :: acc) cs else none
  | c :: cs => if c.toNat < 32 || c = '\\' then none else scanString (c :: acc) cs
  | [] => none

/-- Digits, at least one, and what follows them. -/
def scanDigits (cs : List Char) : Option (List Char × List Char) :=
  let ds := cs.takeWhile Char.isDigit
  if ds.isEmpty then none else some (ds, cs.dropWhile Char.isDigit)

/-- The whole part of a number: a zero stands alone. -/
def scanWhole : List Char → Option (List Char × List Char)
  | '0' :: cs => some (['0'], cs)
  | cs => scanDigits cs

def scanFraction : List Char → Option (List Char × List Char)
  | '.' :: cs => (scanDigits cs).map fun p => ('.' :: p.1, p.2)
  | cs => some ([], cs)

def scanSignedDigits : List Char → Option (List Char × List Char)
  | '+' :: cs => (scanDigits cs).map fun p => ('+' :: p.1, p.2)
  | '-' :: cs => (scanDigits cs).map fun p => ('-' :: p.1, p.2)
  | cs => scanDigits cs

def scanExponent : List Char → Option (List Char × List Char)
  | 'e' :: cs => (scanSignedDigits cs).map fun p => ('e' :: p.1, p.2)
  | 'E' :: cs => (scanSignedDigits cs).map fun p => ('E' :: p.1, p.2)
  | cs => some ([], cs)

def scanUnsigned (cs : List Char) : Option (List Char × List Char) := do
  let (whole, cs) ← scanWhole cs
  let (fraction, cs) ← scanFraction cs
  let (exponent, cs) ← scanExponent cs
  return (whole ++ fraction ++ exponent, cs)

def scanNumber (cs : List Char) : Option (Json × List Char) :=
  match cs with
  | '-' :: cs => (scanUnsigned cs).map fun p => (.number (String.ofList ('-' :: p.1)), p.2)
  | cs => (scanUnsigned cs).map fun p => (.number (String.ofList p.1), p.2)

mutual

def scanValue : Nat → List Char → Option (Json × List Char)
  | 0, _ => none
  | fuel + 1, cs =>
    match skipBlanks cs with
    | 'n' :: 'u' :: 'l' :: 'l' :: cs => some (.null, cs)
    | 't' :: 'r' :: 'u' :: 'e' :: cs => some (.bool true, cs)
    | 'f' :: 'a' :: 'l' :: 's' :: 'e' :: cs => some (.bool false, cs)
    | '"' :: cs => (scanString [] cs).map fun p => (.string p.1, p.2)
    | '[' :: cs =>
      match skipBlanks cs with
      | ']' :: cs => some (.array [], cs)
      | cs => (scanItems fuel cs).map fun p => (.array p.1, p.2)
    | '{' :: cs =>
      match skipBlanks cs with
      | '}' :: cs => some (.object [], cs)
      | cs => (scanMembers fuel cs).map fun p => (.object p.1, p.2)
    | cs => scanNumber cs

/-- The items of an array up to its closing bracket. -/
def scanItems : Nat → List Char → Option (List Json × List Char)
  | 0, _ => none
  | fuel + 1, cs => do
    let (item, cs) ← scanValue fuel cs
    match skipBlanks cs with
    | ',' :: cs => (scanItems fuel cs).map fun p => (item :: p.1, p.2)
    | ']' :: cs => some ([item], cs)
    | _ => none

/-- The members of an object up to its closing brace. -/
def scanMembers : Nat → List Char → Option (List (String × Json) × List Char)
  | 0, _ => none
  | fuel + 1, cs =>
    match skipBlanks cs with
    | '"' :: cs => do
      let (key, cs) ← scanString [] cs
      match skipBlanks cs with
      | ':' :: cs => do
        let (value, cs) ← scanValue fuel cs
        match skipBlanks cs with
        | ',' :: cs => (scanMembers fuel cs).map fun p => ((key, value) :: p.1, p.2)
        | '}' :: cs => some ([(key, value)], cs)
        | _ => none
      | _ => none
    | _ => none

end

/-- A nested call comes at most twice for each character. -/
def parse? (s : String) : Option Json :=
  let cs := s.toList
  match scanValue (2 * cs.length + 2) cs with
  | some (v, rest) => if (skipBlanks rest).isEmpty then some v else none
  | none => none

end SerumDex.Json
