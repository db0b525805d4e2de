import SerumDex.Json.Value
import SerumDex.Snapshot.Error
import SerumDex.Text.Base64

namespace SerumDex

inductive DataEncoding where
  | binary
  | base58
  | base64
  | jsonParsed
  | base64Zstd
  deriving DecidableEq

namespace DataEncoding

/-- The name of an encoding in requests and replies. -/
def text : DataEncoding → String
  | binary => "binary"
  | base58 => "base58"
  | base64 => "base64"
  | jsonParsed => "jsonParsed"
  | base64Zstd => "base64+zstd"

/-- The name of an encoding in messages. -/
def inspect : DataEncoding → String
  | binary => "Binary"
  | base58 => "Base58"
  | base64 => "Base64"
  | jsonParsed => "JsonParsed"
  | base64Zstd => "Base64Zstd"

def all : List DataEncoding := [binary, base58, base64, jsonParsed, base64Zstd]

def ofText? (s : String) : Option DataEncoding := all.find? fun e => e.text = s

/-- An encoding is given by its name, or by an object that holds null under its name. -/
def ofValue? : Json.Value → Option DataEncoding
  | .string s => ofText? s
  | .object [(key, .null)] => ofText? key
  | _ => none

end DataEncoding

/-- An account that the node has parsed itself. -/
structure ParsedAccount where
  program : String
  parsed : Json.Value
  space : Nat

inductive AccountData where
  | legacy (text : String)
  | parsed (account : ParsedAccount)
  | encoded (text : String) (encoding : DataEncoding)

namespace ParsedAccount

def ofFields? : Json.Value → Json.Value → Json.Value → Option ParsedAccount
  | .string program, parsed, .number (.natural space) => some ⟨program, parsed, space⟩
  | _, _, _ => none

/-- A parsed account is an object with its three fields, or an array of them. -/
def ofValue? : Json.Value → Option ParsedAccount
  | .array [program, parsed, space] => ofFields? program parsed space
  | v@(.object _) => do
    let program ← v.get? "program"
    let parsed ← v.get? "parsed"
    let space ← v.get? "space"
    ofFields? program parsed space
  | _ => none

def inspect (a : ParsedAccount) : String :=
  "ParsedAccount \x7b program: " ++ Text.quote a.program ++ ", parsed: " ++ a.parsed.inspect
    ++ ", space: " ++ a.space.repr ++ " \x7d"

end ParsedAccount

namespace AccountData

/-- A bare string is data of the legacy form; then come parsed accounts, and last a pair of a text and
its encoding. -/
def ofValue? (v : Json.Value) : Option AccountData :=
  match v with
  | .string s => some (.legacy s)
  | v =>
    match ParsedAccount.ofValue? v with
    | some a => some (.parsed a)
    | none =>
      match v with
      | .array [.string s, encoding] => (DataEncoding.ofValue? encoding).map (.encoded s)
      | _ => none

def inspect : AccountData → String
  | legacy s => "LegacyBinary(" ++ Text.quote s ++ ")"
  | parsed a => "Json(" ++ a.inspect ++ ")"
  | encoded s e => "Binary(" ++ Text.quote s ++ ", " ++ e.inspect ++ ")"

/-- The form in which a reply holds the data. -/
def toJson : AccountData → Json
  | legacy s => .text s
  | parsed a => .object [("program", .text a.program), ("parsed", a.parsed.toJson),
      ("space", .nat a.space)]
  | encoded s e => .array [.text s, .text e.text]

/-- The bytes of the data of an account. -/
def bytes (address : Address) : AccountData → Except FetchError Bytes
  | encoded s .base64 =>
    match Base64.decode s.toUTF8.toList with
    | .ok bs => .ok bs
    | .error fault => .error (.rpc address ("base64 invalide : " ++ fault.message))
  | other => .error (.rpc address ("encodage inattendu : " ++ other.inspect))

end AccountData

end SerumDex
