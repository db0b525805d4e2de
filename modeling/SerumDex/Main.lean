import SerumDex.Rpc.Http
import SerumDex.Session
import Std.Async.DNS
import Std.Async.TCP

/-! The command line program. A run is replayed from the exchanges made so far until it asks for none
that is missing, and each missing exchange is made in turn. Requests go over plain HTTP; a node that
answers otherwise counts as unreachable. -/
namespace SerumDex.Main

/-- The exchanges that are left to replay, and the first address asked for behind them. -/
structure Replay where
  known : List Exchange
  wanted : Option Address

def replay : Transport Replay := fun address r =>
  match r.known with
  | e :: known => (e, { r with known := known })
  | [] => (.unreachable, { r with wanted := r.wanted.or (some address) })

partial def receive (socket : Std.Async.TCP.Socket.Client) (data : ByteArray) : IO ByteArray := do
  match ← (socket.recv? 65536).block with
  | some more => receive socket (data ++ more)
  | none => return data

def exchange (e : Http.Endpoint) (address : Address) : IO Exchange := do
  let found ← (Std.Async.DNS.getAddrInfo e.host e.port.repr).block
  match found[0]? with
  | none => return .unreachable
  | some ip =>
    let port := UInt16.ofNat e.port
    let target : Std.Net.SocketAddress :=
      match ip with
      | .v4 ip => .v4 ⟨ip, port⟩
      | .v6 ip => .v6 ⟨ip, port⟩
    let socket ← Std.Async.TCP.Socket.Client.mk
    (socket.connect target).block
    (socket.send (Http.request e (accountRequest address).compact).toUTF8).block
    let data ← receive socket ByteArray.empty
    match (String.fromUTF8? data).bind Http.reply? with
    | some r => return .reply r
    | none => return .unreachable

def exchangeOf (client : RpcClient) (address : Address) : IO Exchange := do
  match client.endpoint.toOption.bind Http.Endpoint.ofUrl? with
  | none => return .unreachable
  | some e =>
    try exchange e address
    catch _ => return .unreachable

/-- Repeats the run with one more exchange each time. An address that is asked for twice in a row is
asked for again only after the delay between retries. -/
partial def complete (inv : Invocation) (settings : Option Settings) (known : List Exchange)
    (last : Option Address) : IO Outcome := do
  let (outcome, r) := Session.run replay inv ⟨known, none⟩
  match r.wanted, settings with
  | some address, some s =>
    if last == some address then
      IO.sleep (UInt32.ofNat (min s.retryDelayMs.toNat (UInt32.size - 1)))
    complete inv settings (known ++ [← exchangeOf (RpcClient.ofSettings s) address]) (some address)
  | _, _ => return outcome

/-- The variables of the environment, in their order. -/
def environment : IO (List (String × String)) := do
  let data ← IO.FS.readBinFile "/proc/self/environ"
  let entries := ((String.fromUTF8? data).getD "").splitOn "\x00"
  return entries.filterMap fun entry =>
    let cs := entry.toList
    let name := cs.takeWhile fun c => c ≠ '='
    if name.isEmpty then none
    else some (String.ofList name, String.ofList (cs.drop (name.length + 1)))

end SerumDex.Main

def main (args : List String) : IO UInt32 := do
  let inv : SerumDex.Invocation := ⟨args, ← SerumDex.Main.environment⟩
  let settings := (SerumDex.Settings.ofVars inv.env).toOption
  let outcome ← SerumDex.Main.complete inv settings [] none
  for event in outcome.logs do
    IO.println (event.line SerumDex.Session.logTarget)
  IO.print outcome.stdout
  IO.eprint outcome.stderr
  return UInt32.ofNat outcome.exitCode
