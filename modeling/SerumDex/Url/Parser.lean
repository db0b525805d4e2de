import SerumDex.Url.Basic
import SerumDex.Url.Path

namespace SerumDex.Url

/-- What the parts of an address look like depends on its scheme. -/
inductive SchemeKind where
  | web
  | file
  | other
  deriving DecidableEq

namespace SchemeKind

def ofScheme (scheme : String) : SchemeKind :=
  if ["http", "https", "ws", "wss", "ftp"].contains scheme then web
  else if scheme = "file" then file
  else other

def isSlash (k : SchemeKind) (c : Char) : Bool := c = '/' || k ≠ other && c = '\\'

def endsAuthority (k : SchemeKind) (c : Char) : Bool := k.isSlash c || c = '?' || c = '#'

def querySet (k : SchemeKind) : Char → Bool := if k = other then Url.querySet else specialQuerySet

end SchemeKind

def defaultPort? (scheme : String) : Option Nat :=
  [("http", 80), ("https", 443), ("ws", 80), ("wss", 443), ("ftp", 21)].lookup scheme

/-- The text without blanks around it, and without tabs and line breaks. -/
def trimmed (s : String) : List Char :=
  let blank (c : Char) : Bool := c.toNat ≤ 32
  let cs := ((s.toList.dropWhile blank).reverse.dropWhile blank).reverse
  cs.filter fun c => c ≠ '\t' ∧ c ≠ '\n' ∧ c ≠ '\r'

def readScheme? (cs : List Char) : Option (String × List Char) :=
  let (name, rest) := cs.span fun c => c.isAlphanum || c = '+' || c = '-' || c = '.'
  match name.head?, rest with
  | some first, ':' :: rest =>
    if first.isAlpha then some (String.ofList (name.map Char.toLower), rest) else none
  | _, _ => none

/-- Splits the credentials off a text. They end at its last at sign. -/
def splitCredentials (cs : List Char) : Option (List Char) × List Char :=
  if cs.contains '@' then
    let place := (cs.reverse.takeWhile fun c => c ≠ '@').reverse
    (some (cs.take (cs.length - place.length - 1)), place)
  else (none, cs)

/-- Splits a text before its first colon that is not in brackets. -/
def splitHost : Bool → List Char → List Char × List Char
  | _, [] => ([], [])
  | isInside, c :: cs =>
    if c = ':' && !isInside then ([], c :: cs)
    else
      let (host, rest) := splitHost (c = '[' || c ≠ ']' && isInside) cs
      (c :: host, rest)

/-- The port behind a host, and what follows it: nothing, or a path that starts with a backslash. -/
def readPort? (scheme : String) : List Char → Option (Option Nat × List Char)
  | ':' :: cs => do
    let (digits, rest) := cs.span Char.isDigit
    let port ← digitsValue 10 digits
    if UInt16.size ≤ port || !(rest.isEmpty || rest.head? == some '\\') then none
    return (if digits.isEmpty || defaultPort? scheme = some port then none else some port, rest)
  | cs => some (none, cs)

/-- The host in a text, which only schemes that are not looked up may leave out. -/
def readHost? (k : SchemeKind) (cs : List Char) : Option (Option Host) :=
  if cs.isEmpty then if k = .other then some none else none
  else (if k = .other then Host.other? cs else Host.special? cs).map some

/-- The authority at the start of a text, and what is behind it. Credentials and ports need a host. -/
def readAuthority? (scheme : String) (cs : List Char) : Option (Authority × List Char) := do
  let k := SchemeKind.ofScheme scheme
  let (cs, rest) := cs.span fun c => !k.endsAuthority c
  let (credentials, place) := splitCredentials cs
  let (username, password) := (credentials.getD []).span fun c => c ≠ ':'
  let (hostText, behind) := splitHost false place
  let host ← readHost? k hostText
  let (port, more) ← readPort? scheme behind
  let a : Authority :=
    ⟨encodeWith userSet username, encodeWith userSet (password.drop 1), host, port⟩
  let isBare := place.isEmpty && credentials == some [] && !rest.isEmpty
  if host.isNone && (a.hasCredentials || !behind.isEmpty || isBare) then none
  return (a, more ++ rest)

/-- The authority of a file behind two slashes, and what is behind it. A drive is no host. -/
def readFileHost? (cs : List Char) : Option (Authority × List Char) := do
  let (name, rest) := cs.span fun c => !SchemeKind.file.endsAuthority c
  if name.isEmpty || isDrive name then return (⟨[], [], none, none⟩, cs)
  let host ← Host.special? name
  return (⟨[], [], if host = .domain "localhost" then none else some host, none⟩, rest)

def tail (k : SchemeKind) (cs : List Char) : Option (List Char) × Option (List Char) :=
  let (query, fragment) := cs.span fun c => c ≠ '#'
  ((query.head?).map fun _ => encodeWith k.querySet (query.drop 1),
    (fragment.head?).map fun _ => encodeWith fragmentSet (fragment.drop 1))

def withRest (scheme : String) (authority : Option Authority) (path : List Char → List Char)
    (cs : List Char) : Url :=
  let (pathText, rest) := cs.span fun c => c ≠ '?' ∧ c ≠ '#'
  let (query, fragment) := tail (SchemeKind.ofScheme scheme) rest
  ⟨scheme, authority, path pathText, query, fragment⟩

def ofFileRest? (cs : List Char) : Option Url := do
  let isSlash := SchemeKind.file.isSlash
  let (a, rest) ←
    match cs with
    | c :: d :: rest =>
      if isSlash c && isSlash d then readFileHost? rest else some (⟨[], [], none, none⟩, cs)
    | _ => some (⟨[], [], none, none⟩, cs)
  let start := rest.takeWhile fun c => c ≠ '?' ∧ c ≠ '#'
  let a := if startsWithDrive isSlash start then { a with host := none } else a
  return withRest "file" (some a) (filePathOf isSlash) rest

def ofOtherRest? (scheme : String) (cs : List Char) : Option Url :=
  let isSlash := SchemeKind.other.isSlash
  match cs with
  | '/' :: '/' :: rest => do
    let (a, rest) ← readAuthority? scheme rest
    return withRest scheme (some a) (fun path => if path.isEmpty then [] else pathOf isSlash path) rest
  | '/' :: _ => some (withRest scheme none (pathOf isSlash) cs)
  | _ => some (withRest scheme none (encodeWith controlSet) cs)

def ofText? (s : String) : Option Url := do
  let (scheme, rest) ← readScheme? (trimmed s)
  match SchemeKind.ofScheme scheme with
  | .web => do
    let isSlash := SchemeKind.web.isSlash
    let (a, rest) ← readAuthority? scheme (rest.dropWhile isSlash)
    return withRest scheme (some a) (pathOf isSlash) rest
  | .file => ofFileRest? rest
  | .other => ofOtherRest? scheme rest

end SerumDex.Url
