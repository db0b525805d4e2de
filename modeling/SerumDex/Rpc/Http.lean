import SerumDex.Rpc.Client

/-! Requests and replies as HTTP messages. A request asks for the connection to be closed behind the
reply, so that the body is all that follows the blank line. -/
namespace SerumDex.Http

/-- Where plain HTTP requests go. -/
structure Endpoint where
  /-- The host as it is looked up. -/
  host : String
  port : Nat
  /-- The host as it is written, with its port if that is not the usual one. -/
  place : String
  /-- The path with the query. -/
  target : String
  deriving DecidableEq

/-- The text under which a host is looked up. -/
def lookupText : Url.Host → String
  | .version6 pieces => Url.version6Text pieces
  | host => host.text

/-- The endpoint of a plain HTTP address. -/
def Endpoint.ofUrl? (url : Url) : Option Endpoint := do
  let a ← url.authority
  let host ← a.host
  if url.scheme = "http" then
    some ⟨lookupText host, a.port.getD 80, a.placeText, url.pathText ++ url.queryText⟩
  else none

/-- The message that posts a JSON body. -/
def request (e : Endpoint) (body : String) : String :=
  "POST " ++ e.target ++ " HTTP/1.0\r\nHost: " ++ e.place
    ++ "\r\nContent-Type: application/json\r\nContent-Length: " ++ body.utf8ByteSize.repr
    ++ "\r\nConnection: close\r\n\r\n" ++ body

/-- The lines of a message up to the blank one, and what follows it. -/
def splitHead : List Char → List Char → Option (List Char × List Char)
  | acc, '\r' :: '\n' :: '\r' :: '\n' :: body => some (acc.reverse, body)
  | acc, c :: cs => splitHead (c :: acc) cs
  | _, [] => none

/-- The reply in a message: its status line is a version, a status and a reason. -/
def reply? (message : String) : Option HttpReply := do
  let (head, body) ← splitHead [] message.toList
  let line := head.takeWhile fun c => c ≠ '\r'
  let afterVersion := (line.dropWhile fun c => c ≠ ' ').drop 1
  let status := afterVersion.takeWhile fun c => c ≠ ' '
  let reason := (afterVersion.dropWhile fun c => c ≠ ' ').drop 1
  let status ← (parseNumber 1000 (String.ofList status)).toOption
  return ⟨status, String.ofList reason, String.ofList body⟩

end SerumDex.Http
