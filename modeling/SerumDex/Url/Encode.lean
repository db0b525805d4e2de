import SerumDex.Text.Hex

namespace SerumDex.Url

def encodeByte (b : UInt8) : List Char :=
  ['%', (Hex.digit (b.toNat / 16)).toUpper, (Hex.digit (b.toNat % 16)).toUpper]

/-- Encodes the characters of a set, and all characters beyond ASCII with them. -/
def encodeWith (set : Char → Bool) (cs : List Char) : List Char :=
  cs.flatMap fun c =>
    if 128 ≤ c.toNat || set c then (String.utf8EncodeChar c).flatMap encodeByte else [c]

/-! The sets of the characters that are encoded in the parts of an address. -/

def controlSet (c : Char) : Bool := c.toNat < 32 || c.toNat = 127

def fragmentSet (c : Char) : Bool :=
  controlSet c || c = ' ' || c = '"' || c = '<' || c = '>' || c = '\x60'

def querySet (c : Char) : Bool :=
  controlSet c || c = ' ' || c = '"' || c = '#' || c = '<' || c = '>'

def specialQuerySet (c : Char) : Bool := querySet c || c = '\''

def pathSet (c : Char) : Bool :=
  fragmentSet c || c = '#' || c = '?' || c = '\x7b' || c = '\x7d'

def userSet (c : Char) : Bool :=
  pathSet c || c = '/' || c = ':' || c = ';' || c = '=' || c = '@' || c = '[' || c = '\\'
    || c = ']' || c = '^' || c = '|'

/-- The bytes of a text whose encoded bytes are decoded. A percent sign without two digits behind it
stands for itself. -/
def decodeBytes : List Char → List UInt8
  | [] => []
  | '%' :: hi :: lo :: cs =>
    match Hex.digit? hi, Hex.digit? lo with
    | some h, some l => UInt8.ofNat (16 * h + l) :: decodeBytes cs
    | _, _ => UInt8.ofNat '%'.toNat :: decodeBytes (hi :: lo :: cs)
  | c :: cs => String.utf8EncodeChar c ++ decodeBytes cs

/-- The text that a text with encoded bytes stands for, if its bytes are those of a text. -/
def decode? (cs : List Char) : Option (List Char) :=
  (String.fromUTF8? ⟨(decodeBytes cs).toArray⟩).map String.toList

end SerumDex.Url
