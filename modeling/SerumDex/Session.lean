import SerumDex.Json.Snapshot
import SerumDex.Logging.Filter
import SerumDex.Rpc.Client

namespace SerumDex

/-- The market that is shown if none is asked for: SOL/USDC. -/
def defaultMarket : String := "9wFFyRfZBsuAha4YcuxcXLKwMxJR43S7fPfQLusDBzvT"

/-- How many trades are logged. -/
def shownFills : Nat := 10

structure Invocation where
  args : List String
  /-- The environment variables in their order. -/
  env : List (String × String)

structure Outcome where
  exitCode : Nat
  logs : List LogEvent
  stdout : String
  stderr : String

namespace Session

/-- The target under which the program logs. -/
def logTarget : String := "market_snapshot"

def info (message : String) (fields : List (String × LogValue)) : LogEvent := ⟨.info, message, fields⟩

def started (address : Address) (url : String) : List LogEvent :=
  [info "--- Snapshot de marché Serum ---" [("market", .text address.text), ("rpc", .text url)],
    info "[1/2] Construction du snapshot..." []]

def decoded (m : Market) : LogEvent :=
  info "Marché décodé" [
    ("base_mint", .text m.baseMint.text),
    ("quote_mint", .text m.quoteMint.text),
    ("tick_size", .float m.scale.tickSize),
    ("min_order_size", .float m.scale.minOrderSize),
    ("fee_rate", .float m.feeRate)]

def reloading : LogEvent := info "[2/2] Rechargement des champs vivants..." []

def fill (e : TradeEvent) : LogEvent :=
  info "Fill" [
    ("side", .text e.side.name),
    ("maker", .bool e.isMaker),
    ("price", .single e.price),
    ("quantity", .single e.quantity),
    ("open_orders", .text e.openOrders.text),
    ("order_id", .text (Hex.encode (Layout.word128.write e.orderId)))]

/-- The queue of a market and its newest trades. -/
def fills (m : Market) : List LogEvent :=
  match m.decodedQueue with
  | none => []
  | some q =>
    info "Event Queue" [
      ("seq_num", .nat q.header.seqNum.toNat),
      ("fills", .nat q.events.length),
      ("traders", .nat q.owners.length)] :: (q.events.take shownFills).map fill

/-- A text of several lines, each but the first indented. -/
def indent (blanks : String) (s : String) : String := ("\n" ++ blanks).intercalate (s.splitOn "\n")

/-- An error with its causes, which are numbered if there are several. -/
def errorReport (message : String) (causes : List String) : String :=
  let lines :=
    match causes with
    | [] => []
    | [cause] => ["    " ++ indent "    " cause]
    | causes => causes.mapIdx fun i cause =>
      String.ofList (List.replicate (5 - i.repr.length) ' ') ++ i.repr ++ ": "
        ++ indent "       " cause
  let causedBy := if lines.isEmpty then "" else "\n\nCaused by:\n" ++ "\n".intercalate lines
  "Error: " ++ message ++ causedBy ++ "\n"

/-- The market to show: the first argument, then the setting, then the usual one. -/
def marketText (inv : Invocation) (settings : Settings) : String :=
  (inv.args.head?.or settings.marketAddress).getD defaultMarket

def failed (logs : List LogEvent) (message : String) (causes : List String) : Outcome :=
  ⟨1, logs, "", errorReport message causes⟩

def failedWith (logs : List LogEvent) (e : SnapshotError) : Outcome :=
  failed logs e.message (e.chain.drop 1)

variable {σ : Type}

/-- Builds, reloads and prints the snapshot of a market. -/
def present (t : Transport σ) (client : RpcClient) (address : Address) (s : σ) : Outcome × σ :=
  let b := (SnapshotBuilder.new address).withOptions ⟨true, true, false⟩
  let source := client.source t
  let logs := started address client.url
  match (b.build source).run ⟨s, DecimalsCache.empty, [], []⟩ with
  | ((.error e, _), w) => (failedWith logs e, w.source)
  | ((.ok m, b), w) =>
    let logs := logs ++ decoded m :: fills m ++ [reloading]
    match (b.reload source m).run w with
    | ((.error e, _, _), w) => (failedWith logs e, w.source)
    | ((.ok (), m, _), w) => (⟨0, logs ++ fills m, m.toJson.pretty ++ "\n", ""⟩, w.source)

/-- A run of the program. Settings are read before the address of the market is looked at. -/
def run (t : Transport σ) (inv : Invocation) (s : σ) : Outcome × σ :=
  let filter := LogFilter.ofSetting (inv.env.lookup "RUST_LOG")
  match Settings.ofVars inv.env with
  | .error e => (failed [] SettingsError.summary [e.cause], s)
  | .ok settings =>
    let text := marketText inv settings
    match Address.ofText text with
    | .error e => (failed [] ("Adresse de marché invalide : " ++ text) [e.message], s)
    | .ok address =>
      let (outcome, s) := present t (RpcClient.ofSettings settings) address s
      ({ outcome with logs := outcome.logs.filter fun e => filter.passes logTarget e }, s)

end Session

end SerumDex
