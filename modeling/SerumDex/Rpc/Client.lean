import SerumDex.Rpc.Reply
import SerumDex.Settings
import SerumDex.Snapshot.Builder
import SerumDex.Url.Parser

namespace SerumDex

/-- Carries requests for accounts to a node. -/
abbrev Transport (σ : Type) := Address → σ → Exchange × σ

/-- Makes an attempt, and another one after each failure that may pass, at most `retries` more. -/
def retrying {σ ε α : Type} (mayPass : ε → Bool) (attempt : σ → Except ε α × σ) :
    Nat → σ → Except ε α × σ
  | 0, s => attempt s
  | retries + 1, s =>
    match attempt s with
    | (.error e, s) => if mayPass e then retrying mayPass attempt retries s else (.error e, s)
    | (.ok a, s) => (.ok a, s)

/-- How far a node has to have confirmed what it answers. -/
def commitment : String := "finalized"

/-- The request for an account, without its number. -/
def accountRequest (address : Address) : Json :=
  .object [
    ("jsonrpc", .text "2.0"),
    ("method", .text "getAccountInfo"),
    ("params", .array [.text address.text, .object [
      ("encoding", .text DataEncoding.base64.text),
      ("dataSlice", .null),
      ("commitment", .text commitment),
      ("minContextSlot", .null)]])]

structure RpcClient where
  url : String
  maxRetries : UInt8

namespace RpcClient

def ofSettings (s : Settings) : RpcClient := ⟨s.rpcUrl, s.maxRetries⟩

/-- The longest address that a request can be made for, in bytes. -/
def maxEndpointSize : Nat := UInt16.size - 2

/-- Whether requests can be sent to an address. Names of hosts may hold more characters in an address
than in a request. -/
def isEndpoint (url : Url) : Bool :=
  ["http", "https"].contains url.scheme
    && url.text.utf8ByteSize ≤ maxEndpointSize
    && match url.host? with
      | none => false
      | some host => !host.text.toList.any fun c => "\"\x60\x7b\x7d".toList.contains c

/-- The address that requests are sent to. Credentials are no part of it. -/
def endpoint (c : RpcClient) : Except RpcFailure Url :=
  match Url.ofText? c.url with
  | none => .error (.invalidEndpoint none)
  | some url =>
    let url := url.withoutCredentials
    if isEndpoint url then .ok url else .error (.invalidEndpoint (some url.text))

variable {σ : Type}

def attempt (t : Transport σ) (c : RpcClient) (address : Address) (s : σ) :
    Except RpcFailure (Option NodeAccount) × σ :=
  match c.endpoint with
  | .error e => (.error e, s)
  | .ok url =>
    let (exchange, s) := t address s
    (exchange.outcome url.text, s)

def failure (address : Address) (e : RpcFailure) : FetchError :=
  if e.isTransport then .transport address e.message else .rpc address e.message

/-- The account at an address, if there is one. -/
def getAccount (t : Transport σ) (c : RpcClient) (address : Address) (s : σ) :
    Except FetchError (Option NodeAccount) × σ :=
  let (result, s) := retrying RpcFailure.isRetryable (c.attempt t address) c.maxRetries.toNat s
  (result.mapError (failure address), s)

/-- The bytes in the answer for an address. -/
def accountBytes (address : Address) :
    Except FetchError (Option NodeAccount) → Except FetchError Bytes
  | .error e => .error e
  | .ok none => .error (.notFound address)
  | .ok (some account) => account.data.bytes address

/-- The client as a source of account bytes. -/
def source (t : Transport σ) (c : RpcClient) : Source σ := fun address s =>
  let (result, s) := c.getAccount t address s
  (accountBytes address result, s)

end RpcClient

end SerumDex
