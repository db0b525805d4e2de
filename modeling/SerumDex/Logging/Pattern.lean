import SerumDex.Text.Characters
import SerumDex.Text.Hex

/-! The patterns that the value of a field may be compared with. Only whether a text is a pattern is
decided here: a filter that holds anything else is no filter. Assertions about the words of all
scripts are no part of the grammar, and a pattern matches whole characters only. -/
namespace SerumDex.Pattern

/-- What holds at a place of a pattern. -/
structure Modes where
  /-- Classes are about the characters of all scripts, and not about single bytes. -/
  allScripts : Bool
  /-- Blanks and comments are skipped. -/
  spaced : Bool

def skipSpaced : Nat → List Char → List Char
  | 0, cs => cs
  | fuel + 1, cs =>
    match cs.dropWhile Text.isBlank with
    | '#' :: cs => skipSpaced fuel ((cs.dropWhile fun c => c ≠ '\x0a').drop 1)
    | cs => cs

def skip (m : Modes) (cs : List Char) : List Char :=
  if m.spaced then skipSpaced cs.length cs else cs

/-- What an escape stands for: a character, a set of them, or a place between them. -/
inductive Atom where
  | character (code : Nat)
  | set
  | place

def scanHex (m : Modes) : Nat → Nat → List Char → Option (Nat × List Char)
  | 0, n, cs => some (n, cs)
  | digits + 1, n, cs =>
    match skip m cs with
    | c :: cs => do
      let d ← Hex.digit? c
      scanHex m digits (n * 16 + d) cs
    | [] => none

/-- The character with a code. A lone byte above the ASCII range is part of a character only. -/
def scanCode (m : Modes) (digits : Nat) (cs : List Char) : Option (Atom × List Char) := do
  let (code, cs) ← scanHex m digits 0 cs
  if !code.isValidChar then none
  else if digits = 2 ∧ !m.allScripts ∧ 128 ≤ code then none
  else some (.character code, cs)

def categories : List Char := "CLMNPSZclmnpsz".toList

/-- The letters of the escapes for control characters, with their codes. -/
def controls : List (Char × Nat) := [('a', 7), ('f', 12), ('t', 9), ('n', 10), ('r', 13), ('v', 11)]

def scanEscape (m : Modes) : List Char → Option (Atom × List Char)
  | [] => none
  | 'x' :: cs => scanCode m 2 cs
  | 'u' :: cs => scanCode m 4 cs
  | 'U' :: cs => scanCode m 8 cs
  | c :: cs =>
    if c = 'p' ∨ c = 'P' then
      match skip m cs with
      | letter :: cs => if m.allScripts && categories.contains letter then some (.set, cs) else none
      | [] => none
    else if c = 'd' ∨ c = 's' ∨ c = 'w' then some (.set, cs)
    -- The complement of a set of bytes holds bytes that are no characters.
    else if c = 'D' ∨ c = 'S' ∨ c = 'W' then if m.allScripts then some (.set, cs) else none
    else if c = 'A' ∨ c = 'z' then some (.place, cs)
    else if c = 'b' ∨ c = 'B' ∨ c = '<' ∨ c = '>' then
      if m.allScripts then none else some (.place, cs)
    else match controls.lookup c with
      | some code => some (.character code, cs)
      | none => if c.isAlphanum ∨ 128 ≤ c.toNat then none else some (.character c.toNat, cs)

def scanMember (m : Modes) : List Char → Option (Atom × List Char)
  | [] => none
  | '\\' :: cs => scanEscape m cs
  | c :: cs => if !m.allScripts && 128 ≤ c.toNat then none else some (.character c.toNat, cs)

/-- Whether a hyphen, which is already read, joins two members: not before the end of the set and
not before another hyphen. -/
def joins (m : Modes) (cs : List Char) : Bool :=
  match skip m cs with
  | ']' :: _ => false
  | '-' :: _ => false
  | _ => true

def scanRange (m : Modes) (cs : List Char) : Option (List Char) := do
  let (first, cs) ← scanMember m cs
  let cs := skip m cs
  match cs with
  | [] => none
  | '-' :: rest =>
    if joins m rest then
      let (last, rest) ← scanMember m (skip m rest)
      match first, last with
      | .character a, .character b => if a ≤ b then some rest else none
      | _, _ => none
    else single first cs
  | cs => single first cs
where
  single (first : Atom) (cs : List Char) : Option (List Char) :=
    match first with
    | .place => none
    | _ => some cs

def setNames : List String :=
  ["alnum", "alpha", "ascii", "blank", "cntrl", "digit", "graph", "lower", "print", "punct",
    "space", "upper", "word", "xdigit"]

/-- A named set, whose opening bracket is read; whether it is a complement, and what follows it. -/
def scanNamed? : List Char → Option (Bool × List Char)
  | ':' :: cs =>
    let negated := cs.head? == some '^'
    let cs := if negated then cs.drop 1 else cs
    match cs.dropWhile fun c => c ≠ ':' with
    | ':' :: ']' :: rest =>
      if setNames.contains (String.ofList (cs.takeWhile fun c => c ≠ ':')) then some (negated, rest)
      else none
    | _ => none
  | _ => none

/-- Hyphens at the start of a set stand for themselves, and so does a closing bracket behind none. -/
def skipLeading (m : Modes) : Bool → List Char → List Char
  | _, '-' :: cs => skipLeadingHyphens cs
  | true, ']' :: cs => skip m cs
  | _, cs => cs
where
  skipLeadingHyphens : List Char → List Char
    | '-' :: cs => skipLeadingHyphens cs
    | cs => skip m cs

def openSet (m : Modes) (cs : List Char) : Option (List Char) :=
  match skip m cs with
  | '^' :: cs => if m.allScripts then some (skipLeading m true (skip m cs)) else none
  | cs => some (skipLeading m true cs)

/-- The rest of a set with so many open brackets, up to what follows it. -/
def scanSet (m : Modes) : Nat → Nat → List Char → Option (List Char)
  | 0, _, _ => none
  | fuel + 1, depth, cs =>
    match skip m cs with
    | [] => none
    | '[' :: cs =>
      match scanNamed? cs with
      | some (negated, rest) =>
        if negated && !m.allScripts then none else scanSet m fuel depth rest
      | none => do
        let cs ← openSet m cs
        scanSet m fuel (depth + 1) cs
    | ']' :: cs => if depth ≤ 1 then some cs else scanSet m fuel (depth - 1) cs
    | '&' :: '&' :: cs => scanSet m fuel depth cs
    | '-' :: '-' :: cs => scanSet m fuel depth cs
    | '~' :: '~' :: cs => scanSet m fuel depth cs
    | cs => do
      let cs ← scanRange m cs
      scanSet m fuel depth cs

structure Flags where
  modes : Modes
  seen : List Char
  /-- Whether a minus sign came, and whether it was the last thing that came. -/
  negated : Bool
  dangling : Bool

def scanFlags : Flags → List Char → Option (Flags × Char × List Char)
  | _, [] => none
  | f, c :: cs =>
    if c = ':' ∨ c = ')' then if f.dangling then none else some (f, c, cs)
    else if c = '-' then
      if f.negated then none else scanFlags { f with negated := true, dangling := true } cs
    else if f.seen.contains c then none
    else
      let f := { f with seen := c :: f.seen, dangling := false }
      if c = 'u' then scanFlags { f with modes := { f.modes with allScripts := !f.negated } } cs
      else if c = 'x' then scanFlags { f with modes := { f.modes with spaced := !f.negated } } cs
      else if c = 'i' ∨ c = 'm' ∨ c = 's' ∨ c = 'U' ∨ c = 'R' then scanFlags f cs
      else none

def scanName (cs : List Char) : Option (List Char × List Char) :=
  let name := cs.takeWhile fun c => c ≠ '>'
  let isStart (c : Char) : Bool := c = '_' || Text.isAlphanumeric c && !c.isDigit
  let isPart (c : Char) : Bool :=
    c = '_' || c = '.' || c = '[' || c = ']' || Text.isAlphanumeric c
  match cs.drop name.length with
  | '>' :: rest => if name.head?.any isStart && name.all isPart then some (name, rest) else none
  | _ => none

structure State where
  modes : Modes
  outer : List Modes
  /-- Whether there is something that a repetition could be about. -/
  repeatable : Bool
  names : List (List Char)

namespace State

def start : State := ⟨⟨true, false⟩, [], false, []⟩

def enter (st : State) (modes : Modes) : State :=
  { st with modes := modes, outer := st.modes :: st.outer, repeatable := false }

end State

def openGroup (st : State) (cs : List Char) : Option (State × List Char) :=
  let named (cs : List Char) : Option (State × List Char) := do
    let (name, cs) ← scanName cs
    if st.names.contains name then none
    else some ({ st.enter st.modes with names := name :: st.names }, cs)
  match skip st.modes cs with
  | '?' :: 'P' :: '<' :: cs => named cs
  | '?' :: '<' :: cs => named cs
  | '?' :: cs => do
    let (f, stop, cs) ← scanFlags ⟨st.modes, [], false, false⟩ cs
    if stop = ':' then some (st.enter f.modes, cs)
    -- Flags alone change the modes up to the end of the group that they stand in.
    else if f.seen.isEmpty && !f.negated then none
    else some ({ st with modes := f.modes, repeatable := false }, cs)
  | cs => some (st.enter st.modes, cs)

def scan : Nat → State → List Char → Bool
  | 0, _, _ => false
  | fuel + 1, st, cs =>
    match skip st.modes cs with
    | [] => st.outer.isEmpty
    | '(' :: cs =>
      match openGroup st cs with
      | some (st, cs) => scan fuel st cs
      | none => false
    | ')' :: cs =>
      match st.outer with
      | modes :: outer => scan fuel { st with modes := modes, outer := outer, repeatable := true } cs
      | [] => false
    | '|' :: cs => scan fuel { st with repeatable := false } cs
    | '[' :: cs =>
      match (openSet st.modes cs).bind (scanSet st.modes cs.length 1) with
      | some cs => scan fuel { st with repeatable := true } cs
      | none => false
    | '\\' :: cs =>
      match scanEscape st.modes cs with
      | some (_, cs) => scan fuel { st with repeatable := true } cs
      | none => false
    | '{' :: _ => false
    | c :: cs =>
      if c = '?' ∨ c = '*' ∨ c = '+' then
        st.repeatable && scan fuel st (if cs.head? == some '?' then cs.drop 1 else cs)
      else if c = '.' && !st.modes.allScripts then false
      else scan fuel { st with repeatable := true } cs

/-- A number with a sign, which would else be a repetition of nothing. -/
def isSignedNumber (cs : List Char) : Bool :=
  match cs with
  | '+' :: cs =>
    let word := String.ofList (cs.map Char.toLower)
    let whole := cs.takeWhile Char.isDigit
    let cs := cs.drop whole.length
    let fraction := if cs.head? == some '.' then (cs.drop 1).takeWhile Char.isDigit else []
    let cs := if cs.head? == some '.' then cs.drop (fraction.length + 1) else cs
    let exponent :=
      match cs with
      | [] => true
      | e :: cs =>
        let ds := if cs.head? == some '+' || cs.head? == some '-' then cs.drop 1 else cs
        e.toLower = 'e' && !ds.isEmpty && ds.all Char.isDigit
    word = "inf" || word = "infinity" || word = "nan"
      || !(whole.isEmpty && fraction.isEmpty) && exponent
  | _ => false

/-- Whether a text can be compared with the value of a field. -/
def isValue (s : String) : Bool :=
  let cs := s.toList
  isSignedNumber cs || scan (cs.length + 1) State.start cs

end SerumDex.Pattern
