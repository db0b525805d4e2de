import SerumDex.Url.Encode

namespace SerumDex.Url

/-- How many full stops a segment consists of, if of nothing else. They may be encoded. -/
def stops? : List Char → Option Nat
  | [] => some 0
  | '.' :: cs => (stops? cs).map (· + 1)
  | '%' :: '2' :: c :: cs => if c = 'e' || c = 'E' then (stops? cs).map (· + 1) else none
  | _ => none

/-- Whether a segment names a drive: a letter and a colon, or a bar in its place. -/
def isDrive : List Char → Bool
  | [letter, mark] => letter.isAlpha && (mark = ':' || mark = '|')
  | _ => false

/-- A path up to its last slash. -/
def upToSlash (path : List Char) : List Char := (path.reverse.dropWhile fun c => c ≠ '/').reverse

/-- The directory above one, both ending in a slash. The root and drives have none above them. -/
def parent (path : List Char) : List Char :=
  let inside := path.dropLast
  let above := upToSlash inside
  if above.isEmpty || isDrive (inside.drop above.length) then path else above

/-- A directory with a segment behind it, and a slash unless the segment is the last one. -/
def addSegment (path segment : List Char) (isLast : Bool) : List Char :=
  match stops? segment with
  | some 1 => path
  | some 2 => parent path
  | _ => path ++ encodeWith pathSet segment ++ (if isLast then [] else ['/'])

def addSegments (path : List Char) : List (List Char) → List Char
  | [] => path
  | [segment] => addSegment path segment true
  | segment :: segments => addSegments (addSegment path segment false) segments

/-- The pieces of a text between its separators. -/
def splitAt (isSeparator : Char → Bool) : List Char → List (List Char)
  | [] => [[]]
  | c :: cs =>
    match splitAt isSeparator cs with
    | [] => [[c]]
    | piece :: pieces => if isSeparator c then [] :: piece :: pieces else (c :: piece) :: pieces

/-- The path that a text stands for. A slash at the start of the text is the root. -/
def pathOf (isSlash : Char → Bool) (cs : List Char) : List Char :=
  let cs :=
    match cs with
    | c :: rest => if isSlash c then rest else cs
    | [] => []
  addSegments ['/'] (splitAt isSlash cs)

/-- The segments of a path to a file. The first one is a drive or not; a drive is written with a
colon. -/
def fileSegments (isSlash : Char → Bool) (cs : List Char) : List (List Char) :=
  match splitAt isSlash (cs.dropWhile isSlash) with
  | segment :: segments =>
    (if isDrive segment then segment.take 1 ++ [':'] else segment) :: segments
  | [] => []

/-- Whether a path to a file starts with a drive. -/
def startsWithDrive (isSlash : Char → Bool) (cs : List Char) : Bool :=
  ((fileSegments isSlash cs).head?.map isDrive).getD false

/-- The path to a file that a text stands for. It starts with one slash only. -/
def filePathOf (isSlash : Char → Bool) (cs : List Char) : List Char :=
  '/' :: (addSegments ['/'] (fileSegments isSlash cs)).dropWhile fun c => c = '/'

end SerumDex.Url
