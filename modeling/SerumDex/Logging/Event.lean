import SerumDex.Decimal.Notation
import SerumDex.Json.Printer

namespace SerumDex

inductive LogLevel where
  | error
  | warn
  | info
  | debug
  | trace
  deriving DecidableEq

namespace LogLevel

def name : LogLevel → String
  | error => "ERROR"
  | warn => "WARN"
  | info => "INFO"
  | debug => "DEBUG"
  | trace => "TRACE"

/-- How talkative a level is, from the gravest on. -/
def verbosity : LogLevel → Nat
  | error => 1
  | warn => 2
  | info => 3
  | debug => 4
  | trace => 5

end LogLevel

inductive LogValue where
  | text (value : String)
  | nat (value : Nat)
  | bool (value : Bool)
  | float (value : Float)
  | single (value : Float32)

structure LogEvent where
  level : LogLevel
  message : String
  fields : List (String × LogValue)

def LogValue.toJson : LogValue → Json
  | text s => .text s
  | nat n => .nat n
  | bool b => .bool b
  | float x => ((Decimal.doubleText? x).map .number).getD .null
  | single x => ((Decimal.doubleText? x.toFloat).map .number).getD .null

def LogEvent.line (e : LogEvent) (target : String) : String :=
  (Json.object [
    ("level", .text e.level.name),
    ("fields", .object (("message", .text e.message) :: e.fields.map fun f => (f.1, f.2.toJson))),
    ("target", .text target)]).compact

end SerumDex
