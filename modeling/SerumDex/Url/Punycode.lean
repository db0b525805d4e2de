/-! Labels of domain names beyond ASCII as ASCII text. The plain characters come first; the others are
inserted in the order of their code points, each insertion being one number: how many steps through the
places and the code points lie before it. -/
namespace SerumDex.Url.Punycode

def digit (d : Nat) : Char := if d < 26 then Char.ofNat (97 + d) else Char.ofNat (48 + (d - 26))

def digit? (c : Char) : Option Nat :=
  if 'a' ≤ c ∧ c ≤ 'z' then some (c.toNat - 97)
  else if 'A' ≤ c ∧ c ≤ 'Z' then some (c.toNat - 65)
  else if '0' ≤ c ∧ c ≤ '9' then some (c.toNat - 48 + 26)
  else none

/-- The digits below which a number may end, at one of its places. -/
def threshold (place bias : Nat) : Nat :=
  if place ≤ bias then 1 else if bias + 26 ≤ place then 26 else place - bias

def shrink (delta places : Nat) : Nat × Nat :=
  if 455 < delta then shrink (delta / 35) (places + 36) else (delta, places)
termination_by delta
decreasing_by omega

/-- The bias for the next number: it follows the size of the last one. -/
def adapt (delta count : Nat) (isFirst : Bool) : Nat :=
  let delta := if isFirst then delta / 700 else delta / 2
  let (delta, places) := shrink (delta + delta / count) 0
  places + 36 * delta / (delta + 38)

/-- The digits of a number, of which there are fewer than `room`. -/
def writeNumber (bias : Nat) : Nat → Nat → Nat → List Char
  | 0, _, _ => []
  | room + 1, place, n =>
    let t := threshold place bias
    if n < t then [digit n]
    else digit (t + (n - t) % (36 - t)) :: writeNumber bias room (place + 36) ((n - t) / (36 - t))

structure Progress where
  written : List Char
  delta : Nat
  bias : Nat
  count : Nat

/-- One character of the label while the characters of one code point are inserted. -/
def visit (plain code : Nat) (p : Progress) (c : Char) : Progress :=
  if c.toNat < code then { p with delta := p.delta + 1 }
  else if c.toNat = code then {
    written := p.written ++ writeNumber p.bias (p.delta + 1) 36 p.delta
    delta := 0
    bias := adapt p.delta (p.count + 1) (p.count = plain)
    count := p.count + 1 }
  else p

/-- The insertions for the code points that are left, in rising order. -/
def insertions (cs : List Char) (plain : Nat) : Nat → List Nat → Progress → Progress
  | _, [], p => p
  | next, code :: codes, p =>
    let p := { p with delta := p.delta + (code - next) * (p.count + 1) }
    let p := cs.foldl (visit plain code) p
    insertions cs plain (code + 1) codes { p with delta := p.delta + 1 }

def encode (cs : List Char) : List Char :=
  let plain := cs.filter fun c => c.toNat < 128
  let codes := ((cs.filter fun c => 128 ≤ c.toNat).map Char.toNat).eraseDups
  let codes := codes.mergeSort
  let start : Progress := ⟨[], 0, 72, plain.length⟩
  plain ++ (if plain.isEmpty then [] else ['-'])
    ++ (insertions cs plain.length 128 codes start).written

/-- A number at the start of a text, added to `n`, and what follows it. -/
def readNumber (bias : Nat) : Nat → Nat → Nat → List Char → Option (Nat × List Char)
  | _, _, _, [] => none
  | place, weight, n, c :: cs => do
    let d ← digit? c
    let t := threshold place bias
    if d < t then some (n + d * weight, cs)
    else readNumber bias (place + 36) (weight * (36 - t)) (n + d * weight) cs

/-- The label with all insertions made, each of which takes at least one character of the text. -/
def insertAll : Nat → Nat → Nat → Nat → List Char → List Char → Option (List Char)
  | _, _, _, _, label, [] => some label
  | 0, _, _, _, _, _ => none
  | room + 1, bias, code, place, label, cs => do
    let (n, rest) ← readNumber bias 36 1 place cs
    let count := label.length + 1
    let code := code + n / count
    if code.isValidChar then
      insertAll room (adapt (n - place) count (place = 0)) code (n % count + 1)
        (label.insertIdx (n % count) (Char.ofNat code)) rest
    else none

def decode? (cs : List Char) : Option (List Char) :=
  let tail := (cs.reverse.takeWhile fun c => c ≠ '-').reverse
  let plain := cs.take (cs.length - tail.length - 1)
  insertAll tail.length 72 128 0 plain tail

end SerumDex.Url.Punycode
