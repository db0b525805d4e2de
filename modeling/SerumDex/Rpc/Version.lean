import SerumDex.Text.Quoted

namespace SerumDex.NodeVersion

inductive Part where
  | major
  | minor
  | patch
  | preRelease
  | build
  deriving DecidableEq

def Part.name : Part → String
  | major => "major version number"
  | minor => "minor version number"
  | patch => "patch version number"
  | preRelease => "pre-release identifier"
  | build => "build metadata"

inductive Fault where
  | empty
  | ended (p : Part)
  | unexpected (p : Part) (c : Char)
  | unexpectedAfter (p : Part) (c : Char)
  | leadingZero (p : Part)
  | tooLarge (p : Part)
  | emptyWord (p : Part)
  deriving DecidableEq

/-- A character in single quotes. -/
def singleQuoted (c : Char) : String :=
  let inside :=
    if c = '\'' then ['\\', '\''] else if c = '"' then ['"'] else Text.quoteChar c
  "'" ++ String.ofList inside ++ "'"

def Fault.message : Fault → String
  | empty => "empty string, expected a semver version"
  | ended p => "unexpected end of input while parsing " ++ p.name
  | unexpected p c => "unexpected character " ++ singleQuoted c ++ " while parsing " ++ p.name
  | unexpectedAfter p c => "unexpected character " ++ singleQuoted c ++ " after " ++ p.name
  | leadingZero p => "invalid leading zero in " ++ p.name
  | tooLarge p => "value of " ++ p.name ++ " exceeds u64::MAX"
  | emptyWord p => "empty identifier segment in " ++ p.name

/-- What follows the number at the start of a text. -/
def skipNumber (p : Part) (cs : List Char) : Except Fault (List Char) :=
  let (digits, rest) := cs.span Char.isDigit
  match digits, rest with
  | [], [] => .error (.ended p)
  | [], c :: _ => .error (.unexpected p c)
  | '0' :: _ :: _, _ => .error (.leadingZero p)
  | digits, rest =>
    let value := digits.foldl (fun n d => n * 10 + (d.toNat - '0'.toNat)) 0
    if UInt64.size ≤ value then .error (.tooLarge p) else .ok rest

/-- What follows the full stop behind a number. -/
def skipStop (p : Part) : List Char → Except Fault (List Char)
  | '.' :: cs => .ok cs
  | c :: _ => .error (.unexpectedAfter p c)
  | [] => .error (.ended p)

/-- Words are not empty, and a number among those of a pre-release has no leading zero. -/
def checkWord (p : Part) (word : String) : Except Fault Unit :=
  match word.toList with
  | [] => .error (.emptyWord p)
  | '0' :: c :: cs =>
    if p = .preRelease && (c :: cs).all Char.isDigit then .error (.leadingZero p) else .ok ()
  | _ => .ok ()

/-- What follows the words at the start of a text, between which there are full stops. -/
def skipWords (p : Part) (cs : List Char) : Except Fault (List Char) := do
  let (words, rest) := cs.span fun c => c.isAlphanum || c = '-' || c = '.'
  for word in (String.ofList words).splitOn "." do checkWord p word
  return rest

/-- Checks that a text is a version. -/
def check (s : String) : Except Fault Unit := do
  if s.isEmpty then throw .empty
  let cs ← skipNumber .major s.toList
  let cs ← skipNumber .minor (← skipStop .major cs)
  let cs ← skipNumber .patch (← skipStop .minor cs)
  let (p, cs) ←
    match cs with
    | '-' :: words => do pure (Part.preRelease, ← skipWords .preRelease words)
    | _ => pure (Part.patch, cs)
  let (p, cs) ←
    match cs with
    | '+' :: words => do pure (Part.build, ← skipWords .build words)
    | _ => pure (p, cs)
  match cs with
  | [] => return ()
  | c :: _ => throw (.unexpectedAfter p c)

end SerumDex.NodeVersion
