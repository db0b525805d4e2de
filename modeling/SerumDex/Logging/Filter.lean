import SerumDex.Logging.Event
import SerumDex.Logging.Pattern
import SerumDex.Settings

namespace SerumDex

/-- The verbosity up to which events pass; zero lets nothing pass. -/
abbrev Verbosity := Nat

namespace Verbosity

def names : List (String × Verbosity) :=
  [("off", 0), ("error", 1), ("warn", 2), ("info", 3), ("debug", 4), ("trace", 5)]

def ofText? (s : String) : Option Verbosity :=
  match parseNumber UInt64.size s with
  | .ok n => if n ≤ 5 then some n else none
  | .error _ =>
    if s.isEmpty then some 1 else names.lookup (String.ofList (s.toList.map Char.toLower))

def everything : Verbosity := 5

def ofLevel? (s : String) : Option Verbosity := if s.isEmpty then some everything else ofText? s

end Verbosity

/-- A field that is asked for, perhaps with a value. -/
structure FieldTest where
  name : String
  value : Option String

def FieldTest.ofText? (s : String) : Option FieldTest :=
  match s.splitOn "=" with
  | name :: value :: _ => if Pattern.isValue value then some ⟨name, some value⟩ else none
  | _ => if s.isEmpty then none else some ⟨s, none⟩

/-- How talkative the targets with a common beginning may be, or only their events with a certain field,
or events inside certain spans. -/
structure Directive where
  /-- The beginning of the targets that the directive is about; nothing if it is about all. -/
  target : Option String
  /-- The name of the spans that it is about; nothing if it is not about spans of one name. -/
  span : Option String
  field : Option FieldTest
  verbosity : Verbosity

def sliceFrom (offset start stop : Nat) : List Char → List Char
  | [] => []
  | c :: cs =>
    let rest := sliceFrom (offset + c.utf8Size) start stop cs
    if start ≤ offset ∧ offset < stop then c :: rest else rest

def slice (s : String) (start stop : Nat) : String := String.ofList (sliceFrom 0 start stop s.toList)

def utf8Length (cs : List Char) : Nat := cs.foldl (fun n c => n + c.utf8Size) 0

namespace Directive

/-- A directive without an equals sign and without a span is a level or a target. -/
def ofWord (s : String) : Directive :=
  match Verbosity.ofText? s with
  | some v => ⟨none, none, none, v⟩
  | none => ⟨some s, none, none, Verbosity.everything⟩

def isWordStart (c : Char) : Bool := c = '-' || c = ':' || c = '_' || Text.isAlphanumeric c

/-- The level behind the brackets, which end at an offset of a text. -/
def withLevel? (s : String) (offset : Nat) (d : Directive) : List Char → Option Directive
  | [] => some d
  | '=' :: _ =>
    (Verbosity.ofLevel? (slice s (offset + 1) s.utf8ByteSize)).map fun v => { d with verbosity := v }
  | _ => none

/-- What stands in brackets and behind them: the name of a span, and a field in braces. -/
def ofBrackets? (s : String) (target : Option String) (start : Nat) (cs : List Char) :
    Option Directive :=
  let name := cs.takeWhile fun c => c ≠ ']' && c ≠ '\x7b'
  let stop := start + utf8Length name
  let span := slice s start stop
  match cs.drop name.length with
  | ']' :: cs => withLevel? s (stop + 1) ⟨target, some span, none, Verbosity.everything⟩ cs
  | _ :: cs =>
    let field := cs.takeWhile fun c => c ≠ '\x7d'
    let fieldStop := stop + 1 + utf8Length field
    match cs.drop field.length with
    | _ :: ']' :: cs => do
      let field ← FieldTest.ofText? (slice s (stop + 1) fieldStop)
      let span := if span.isEmpty then none else some span
      withLevel? s (fieldStop + 2) ⟨target, span, some field, Verbosity.everything⟩ cs
    | _ => none
  | [] => none

/-- A directive: a level, a target, brackets, a target and brackets, and any of the last three with a
level behind an equals sign. Where the parts stand is counted from the first character that is no
blank, and they are then taken from the text with its blanks. -/
def ofText? (s : String) : Option Directive :=
  match Text.trimBlanks s.toList with
  | [] => none
  | '[' :: cs => ofBrackets? s none 1 cs
  | c :: cs =>
    if isWordStart c then
      let word := (c :: cs).takeWhile fun c => c ≠ '=' && c ≠ '['
      let stop := utf8Length word
      let target := some (slice s 0 stop)
      match (c :: cs).drop word.length with
      | '[' :: cs => ofBrackets? s target (stop + 1) cs
      | [] => some (ofWord s)
      | cs => withLevel? s stop ⟨target, none, none, Verbosity.everything⟩ cs
    else none

/-- Whether the directive is about single events: it is about no span, and about no value. -/
def isStatic (d : Directive) : Bool := d.span.isNone && d.field.all fun f => f.value.isNone

/-- Whether the directive is about an event of a target with these fields. -/
def covers (d : Directive) (target : String) (fields : List String) : Bool :=
  (d.target.all fun start => start.toList.isPrefixOf target.toList)
    && d.field.all fun f => fields.contains f.name

/-- Whether the other directive is at least as specific: it has the longer target, or names a field,
or names the later one. -/
def yieldsTo (d other : Directive) : Bool :=
  let size (x : Directive) : Nat := x.target.elim 0 fun t => t.utf8ByteSize + 1
  if size d ≠ size other then size d < size other
  else match d.field, other.field with
    | none, _ => true
    | some _, none => false
    | some f, some g => f.name ≤ g.name

end Directive

structure LogFilter where
  directives : List Directive

namespace LogFilter

def upTo (v : Verbosity) : LogFilter := ⟨[⟨none, none, none, v⟩]⟩

/-- The filter that a text describes. A text without directives lets only errors pass. -/
def ofText? (s : String) : Option LogFilter := do
  let directives ← ((s.splitOn ",").filter fun part => !part.isEmpty).mapM Directive.ofText?
  return if directives.isEmpty then upTo 1 else ⟨directives⟩

/-- The filter that is used if none is given or the given one cannot be read. -/
def standard : LogFilter := upTo 3

def ofSetting (setting : Option String) : LogFilter := (setting.bind ofText?).getD standard

/-- The verbosity for an event outside of spans is set by the most specific directive about it, the last
one of equally specific ones. -/
def verbosityOf (f : LogFilter) (target : String) (fields : List String) : Verbosity :=
  let about := f.directives.filter fun d => d.isStatic && d.covers target fields
  (about.foldl (fun best d =>
    match best with
    | some b => if b.yieldsTo d then some d else some b
    | none => some d) none).elim 0 Directive.verbosity

/-- Whether an event passes. Its message counts as a field. -/
def passes (f : LogFilter) (target : String) (e : LogEvent) : Bool :=
  e.level.verbosity ≤ f.verbosityOf target ("message" :: e.fields.map Prod.fst)

end LogFilter

end SerumDex
