namespace SerumDex

inductive NumberFault where
  | empty
  | invalidDigit
  | tooLarge
  deriving DecidableEq

def NumberFault.message : NumberFault → String
  | empty => "cannot parse integer from empty string"
  | invalidDigit => "invalid digit found in string"
  | tooLarge => "number too large to fit in target type"

/-- The number below `bound` that the digits after a number `n` make up. The first digit at which
something goes wrong decides. -/
def parseDigits (bound : Nat) : Nat → List Char → Except NumberFault Nat
  | n, [] => .ok n
  | n, c :: cs =>
    if c.isDigit then
      let next := n * 10 + (c.toNat - '0'.toNat)
      if next < bound then parseDigits bound next cs else .error .tooLarge
    else .error .invalidDigit

/-- A number below `bound` in decimal digits, with one plus sign before them or none. -/
def parseNumber (bound : Nat) (s : String) : Except NumberFault Nat :=
  match s.toList with
  | [] => .error .empty
  | ['+'] => .error .invalidDigit
  | '+' :: cs => parseDigits bound 0 cs
  | cs => parseDigits bound 0 cs

inductive Setting where
  | rpcUrl
  | maxRetries
  | retryDelay
  | marketAddress
  deriving DecidableEq

namespace Setting

def all : List Setting := [rpcUrl, maxRetries, retryDelay, marketAddress]

def name : Setting → String
  | rpcUrl => "solana_rpc_url"
  | maxRetries => "rpc_max_retries"
  | retryDelay => "rpc_retry_delay_ms"
  | marketAddress => "market_address"

/-- The lower case of a letter that can occur in the name of a setting. Besides the capitals, the
Kelvin sign has one. -/
def lowerChar (c : Char) : Char := if c = '\u212a' then 'k' else c.toLower

def ofName? (s : String) : Option Setting :=
  let key := String.ofList (s.toList.map lowerChar)
  all.find? fun x => x.name = key

end Setting

inductive SettingsError where
  | duplicate (setting : Setting)
  | badNumber (fault : NumberFault) (value name : String)
  | missing (setting : Setting)
  deriving DecidableEq

namespace SettingsError

def summary : String := "Configuration invalide (SOLANA_RPC_URL est obligatoire)"

def cause : SettingsError → String
  | duplicate setting => "duplicate field \x60" ++ setting.name ++ "\x60"
  | badNumber fault value name =>
    fault.message ++ " while parsing value '" ++ value ++ "' provided by " ++ name
  | missing setting => "missing value for field " ++ setting.name

end SettingsError

structure Settings where
  rpcUrl : String
  maxRetries : UInt8
  retryDelayMs : UInt64
  marketAddress : Option String
  deriving DecidableEq

/-- The settings found so far. -/
structure PartialSettings where
  rpcUrl : Option String
  maxRetries : Option UInt8
  retryDelayMs : Option UInt64
  marketAddress : Option String

namespace PartialSettings

def empty : PartialSettings := ⟨none, none, none, none⟩

def isSet (p : PartialSettings) : Setting → Bool
  | .rpcUrl => p.rpcUrl.isSome
  | .maxRetries => p.maxRetries.isSome
  | .retryDelay => p.retryDelayMs.isSome
  | .marketAddress => p.marketAddress.isSome

/-- Takes over the value of a variable of the given name. -/
def set (p : PartialSettings) (setting : Setting) (name value : String) :
    Except SettingsError PartialSettings :=
  if p.isSet setting then .error (.duplicate setting)
  else match setting with
    | .rpcUrl => .ok { p with rpcUrl := some value }
    | .marketAddress => .ok { p with marketAddress := some value }
    | .maxRetries =>
      match parseNumber UInt8.size value with
      | .ok n => .ok { p with maxRetries := some (UInt8.ofNat n) }
      | .error fault => .error (.badNumber fault value name)
    | .retryDelay =>
      match parseNumber UInt64.size value with
      | .ok n => .ok { p with retryDelayMs := some (UInt64.ofNat n) }
      | .error fault => .error (.badNumber fault value name)

def add (p : PartialSettings) (var : String × String) : Except SettingsError PartialSettings :=
  match Setting.ofName? var.1 with
  | some setting => p.set setting var.1 var.2
  | none => .ok p

def complete (p : PartialSettings) : Except SettingsError Settings :=
  match p.rpcUrl with
  | none => .error (.missing .rpcUrl)
  | some rpcUrl => .ok {
      rpcUrl := rpcUrl
      maxRetries := p.maxRetries.getD 3
      retryDelayMs := p.retryDelayMs.getD 500
      marketAddress := p.marketAddress }

end PartialSettings

/-- Names are compared in lower case, unknown variables are skipped, and the first variable that is wrong
decides the error. -/
def Settings.ofVars (vars : List (String × String)) : Except SettingsError Settings := do
  let p ← vars.foldlM PartialSettings.add PartialSettings.empty
  p.complete

end SerumDex
