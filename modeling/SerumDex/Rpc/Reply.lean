import SerumDex.Json.Reader
import SerumDex.Rpc.AccountData
import SerumDex.Rpc.Version

namespace SerumDex

/-- An account as a node describes it. -/
structure NodeAccount where
  lamports : UInt64
  data : AccountData
  owner : String
  executable : Bool
  rentEpoch : UInt64
  space : Option UInt64

open Json (Value ReadFault)

def AccountData.read (v : Value) : Except ReadFault AccountData :=
  match AccountData.ofValue? v with
  | some data => .ok data
  | none => .error (.noVariant "UiAccountData")

namespace NodeAccount

def ofMembers (members : List (String × Value)) : Except ReadFault NodeAccount := do
  let data ← Value.readMember AccountData.read "data" members
  let executable ← Value.readMember Value.readBool "executable" members
  let lamports ← Value.readMember Value.readWord64 "lamports" members
  let owner ← Value.readMember Value.readText "owner" members
  let rentEpoch ← Value.readMember Value.readWord64 "rentEpoch" members
  let space ← Value.readMember (Value.readOption Value.readWord64) "space" members
  return {
    lamports := ← Value.required "lamports" lamports
    data := ← Value.required "data" data
    owner := ← Value.required "owner" owner
    executable := ← Value.required "executable" executable
    rentEpoch := ← Value.required "rentEpoch" rentEpoch
    space := space.join }

def ofItems (items : List Value) : Except ReadFault NodeAccount := do
  let lamports ← Value.readItem Value.readWord64 "UiAccount" 6 0 items
  let data ← Value.readItem AccountData.read "UiAccount" 6 1 items
  let owner ← Value.readItem Value.readText "UiAccount" 6 2 items
  let executable ← Value.readItem Value.readBool "UiAccount" 6 3 items
  let rentEpoch ← Value.readItem Value.readWord64 "UiAccount" 6 4 items
  let space ← Value.readItem (Value.readOption Value.readWord64) "UiAccount" 6 5 items
  Value.readEnd 6 items
  return ⟨lamports, data, owner, executable, rentEpoch, space⟩

def read : Value → Except ReadFault NodeAccount
  | .object members => ofMembers members
  | .array items => ofItems items
  | v => .error (.invalidType v.kind "struct UiAccount")

end NodeAccount

def readVersion (v : Value) : Except ReadFault Unit := do
  (NodeVersion.check (← Value.readText v)).mapError fun e => .malformed e.message

/-- Checks the context of a result. It names a slot; the version of the node is optional. -/
def readContext : Value → Except ReadFault Unit
  | .object members => do
    let _ ← Value.readMember (Value.readOption readVersion) "apiVersion" members
    let slot ← Value.readMember Value.readWord64 "slot" members
    let _ ← Value.required "slot" slot
  | .array items => do
    let _ ← Value.readItem Value.readWord64 "RpcResponseContext" 2 0 items
    let _ ← Value.readItem (Value.readOption readVersion) "RpcResponseContext" 2 1 items
    Value.readEnd 2 items
  | v => .error (.invalidType v.kind "struct RpcResponseContext")

/-- The account in a result, which is absent if the node does not know the address. -/
def readResult : Value → Except ReadFault (Option NodeAccount)
  | .object members => do
    let context ← Value.readMember readContext "context" members
    let value ← Value.readMember (Value.readOption NodeAccount.read) "value" members
    Value.required "context" context
    return value.join
  | .array items => do
    Value.readItem readContext "Response" 2 0 items
    let value ← Value.readItem (Value.readOption NodeAccount.read) "Response" 2 1 items
    Value.readEnd 2 items
    return value
  | v => .error (.invalidType v.kind "struct Response")

structure HttpReply where
  status : Nat
  reason : String
  body : String

/-- What becomes of one request: the node cannot be reached, or it replies. -/
inductive Exchange where
  | unreachable
  | reply (r : HttpReply)

inductive RpcFailure where
  /-- No request can be made for the address of the node, which is given if it is an address at all. -/
  | invalidEndpoint (endpoint : Option String)
  | unreachable (endpoint : String)
  | refused (status : Nat) (reason endpoint : String)
  | undecodableBody
  | response (code : Int) (message : String)
  | unreadableError (text : String) (fault : ReadFault)
  | unreadableResult (fault : ReadFault)
  deriving DecidableEq

namespace RpcFailure

def message : RpcFailure → String
  | invalidEndpoint none => "builder error"
  | invalidEndpoint (some endpoint) => "builder error for url (" ++ endpoint ++ ")"
  | unreachable endpoint => "error sending request for url (" ++ endpoint ++ ")"
  | refused status reason endpoint =>
    "HTTP status " ++ (if status < 500 then "client" else "server") ++ " error (" ++ status.repr
      ++ " " ++ reason ++ ") for url (" ++ endpoint ++ ")"
  | undecodableBody => "error decoding response body"
  | response code message =>
    "RPC response error " ++ (if code < 0 then "-" else "") ++ code.natAbs.repr ++ ": " ++ message
      ++ "; "
  | unreadableError text fault =>
    "RPC request error: Failed to deserialize RPC error response: " ++ text ++ " ["
      ++ fault.message ++ "]"
  | unreadableResult fault => fault.message

/-- Whether the exchange itself failed, and not what the node said. -/
def isTransport : RpcFailure → Bool
  | invalidEndpoint _ | unreachable _ | refused _ _ _ | undecodableBody => true
  | response _ _ | unreadableError _ _ | unreadableResult _ => false

/-- Only a result that cannot be read would stay the same if it were asked for again. -/
def isRetryable : RpcFailure → Bool
  | unreadableResult _ => false
  | _ => true

end RpcFailure

/-- The failure that an error object in a reply reports. -/
def readError (error : Value) (members : List (String × Value)) : RpcFailure :=
  let parts : Except ReadFault (Int × String) := do
    let code ← Value.readMember Value.readInt64 "code" members
    let message ← Value.readMember Value.readText "message" members
    return (← Value.required "code" code, ← Value.required "message" message)
  match parts with
  | .ok (code, message) => .response code message
  | .error fault => .unreadableError error.toJson.compact fault

/-- What the body of a reply says. An error that is no object is ignored, and a missing result reads as
null. -/
def readBody (body : String) : Except RpcFailure (Option NodeAccount) :=
  match (Json.parse? body).bind Json.value? with
  | none => .error .undecodableBody
  | some v =>
    match v.get? "error" with
    | some e@(.object members) => .error (readError e members)
    | _ => (readResult ((v.get? "result").getD .null)).mapError .unreadableResult

/-- The outcome of an exchange with the node at an endpoint. -/
def Exchange.outcome (endpoint : String) : Exchange → Except RpcFailure (Option NodeAccount)
  | unreachable => .error (.unreachable endpoint)
  | reply r =>
    if 400 ≤ r.status then .error (.refused r.status r.reason endpoint) else readBody r.body

end SerumDex
