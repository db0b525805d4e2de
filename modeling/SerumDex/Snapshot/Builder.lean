import SerumDex.Logging.Event
import SerumDex.Market
import SerumDex.Mint
import SerumDex.Snapshot.DecimalsCache
import SerumDex.Snapshot.Error

namespace SerumDex

/-- Where account bytes come from. A source may change with every request. -/
abbrev Source (σ : Type) := Address → σ → Except FetchError Bytes × σ

inductive Purpose where
  | market
  | decimals
  | live
  deriving DecidableEq

structure Fetch where
  purpose : Purpose
  address : Address
  answer : Except FetchError Bytes

/-- What a run of builds works on: the source, the decimals known so far, the fetches made and the
events logged, both in order. -/
structure Workspace (σ : Type) where
  source : σ
  cache : DecimalsCache
  fetches : List Fetch
  log : List LogEvent

def Workspace.trace {σ : Type} (w : Workspace σ) : List Address := w.fetches.map Fetch.address

abbrev Step (σ α : Type) := StateM (Workspace σ) α

namespace Step

variable {σ : Type}

def emit (e : LogEvent) : Step σ Unit := fun w => ((), { w with log := w.log ++ [e] })

def ask (source : Source σ) (purpose : Purpose) (address : Address) :
    Step σ (Except FetchError Bytes) := fun w =>
  let (answer, s) := source address w.source
  (answer, { w with source := s, fetches := w.fetches ++ [⟨purpose, address, answer⟩] })

def updateCache {α : Type} (f : DecimalsCache → α × DecimalsCache) : Step σ α := fun w =>
  let (a, cache) := f w.cache
  (a, { w with cache := cache })

end Step

/-- What the lookup of a mint does before any answer arrives. -/
inductive LookupStart where
  | known (decimals : UInt8)
  | cached (decimals : UInt8)
  | missing

/-- Wrapped SOL is known beforehand, and it is entered in the cache like any other mint. -/
def startLookup (mint : Address) (cache : DecimalsCache) : LookupStart × DecimalsCache :=
  if isWrappedSol mint then
    let (decimals, cache) := cache.insert mint wrappedSolDecimals
    (.known decimals, cache)
  else match cache.get? mint with
    | some decimals => (.cached decimals, cache)
    | none => (.missing, cache)

/-- What the lookup of a mint does with the answer to its fetch. -/
def finishLookup (mint : Address) (answer : Except FetchError Bytes) (cache : DecimalsCache) :
    Except SnapshotError UInt8 × DecimalsCache :=
  match answer with
  | .error e => (.error (.lookup mint e.message), cache)
  | .ok data =>
    match decodeMint mint data with
    | .error e => (.error (.lookup mint e.message), cache)
    | .ok decoded =>
      let (decimals, cache) := cache.insert mint decoded.decimals
      (.ok decimals, cache)

def cacheHit (mint : Address) (decimals : UInt8) : LogEvent where
  level := .debug
  message := "[Cache] HIT décimales"
  fields := [("mint", .text mint.text), ("decimals", .nat decimals.toNat)]

def cacheMiss (mint : Address) : LogEvent where
  level := .debug
  message := "[Cache] MISS décimales. Fetching via RPC..."
  fields := [("mint", .text mint.text)]

variable {σ : Type}

def lookupDecimals (source : Source σ) (mint : Address) : Step σ (Except SnapshotError UInt8) := do
  match ← Step.updateCache (startLookup mint) with
  | .known decimals => return .ok decimals
  | .cached decimals =>
    Step.emit (cacheHit mint decimals)
    return .ok decimals
  | .missing =>
    Step.emit (cacheMiss mint)
    let answer ← Step.ask source .decimals mint
    Step.updateCache (finishLookup mint answer)

def fetchIf (source : Source σ) (wanted : Bool) (address : Address) :
    Step σ (Option (Except SnapshotError Bytes)) := do
  if wanted then
    let answer ← Step.ask source .live address
    return some (answer.mapError .fetch)
  else return none

structure SnapshotOptions where
  orderBooks : Bool
  eventQueue : Bool
  decimalsOnly : Bool
  deriving DecidableEq

def SnapshotOptions.needsDecimals (o : SnapshotOptions) : Bool :=
  o.orderBooks || o.eventQueue || o.decimalsOnly

/-- The outcomes of the five requests of a snapshot; an account that is not wanted has none. -/
structure Gathered where
  baseDecimals : Except SnapshotError UInt8
  quoteDecimals : Except SnapshotError UInt8
  bids : Option (Except SnapshotError Bytes)
  asks : Option (Except SnapshotError Bytes)
  queue : Option (Except SnapshotError Bytes)

/-- All five requests are made, whatever becomes of the ones before. -/
def gather (source : Source σ) (o : SnapshotOptions) (m : Market) : Step σ Gathered := do
  let baseDecimals ← lookupDecimals source m.baseMint
  let quoteDecimals ← lookupDecimals source m.quoteMint
  let bids ← fetchIf source o.orderBooks m.bids
  let asks ← fetchIf source o.orderBooks m.asks
  let queue ← fetchIf source o.eventQueue m.eventQueue
  return ⟨baseDecimals, quoteDecimals, bids, asks, queue⟩

def errorOf? {ε α : Type} : Except ε α → Option ε
  | .error e => some e
  | .ok _ => none

def valueOf? {ε α : Type} : Except ε α → Option α
  | .error _ => none
  | .ok a => some a

namespace Gathered

def errors (g : Gathered) : List SnapshotError :=
  [errorOf? g.baseDecimals, errorOf? g.quoteDecimals, g.bids.bind errorOf?, g.asks.bind errorOf?,
    g.queue.bind errorOf?].filterMap id

def withDecimals (g : Gathered) (m : Market) : Market :=
  { m with
    baseDecimals := (valueOf? g.baseDecimals).getD 0
    quoteDecimals := (valueOf? g.quoteDecimals).getD 0 }

end Gathered

def decodeSide (address : Address) (side : Side) (data : Bytes) (scale : Scale) :
    Except SnapshotError OrderBookSide :=
  (decodeOrderBookSide address side data scale).mapError (.decode side.accountKind.name address)

/-- Adds both books, if both were fetched. -/
def attachBooks (m : Market) (bids asks : Option Bytes) : Except SnapshotError Market :=
  match bids, asks with
  | some bids, some asks => do
    let bidBook ← decodeSide m.bids .bid bids m.scale
    let askBook ← decodeSide m.asks .ask asks m.scale
    return { m with bidBook := some bidBook, askBook := some askBook }
  | _, _ => .ok m

def attachQueue (m : Market) (queue : Option Bytes) : Except SnapshotError Market :=
  match queue with
  | some data => do
    let queue ← (decodeEventQueue data m.scale).mapError
      (.decode AccountKind.eventQueue.name m.eventQueue)
    return { m with decodedQueue := some queue }
  | none => .ok m

/-- The finished market. Failed requests come before accounts that do not decode, and no failed
request is dropped. -/
def Gathered.attach (g : Gathered) (m : Market) : Except SnapshotError Market :=
  match SnapshotError.ofList? g.errors with
  | some e => .error e
  | none => do
    -- Every request that was made has a value here, and the scale is settled before the live parts.
    let m := g.withDecimals m
    let m ← attachBooks m (g.bids.bind valueOf?) (g.asks.bind valueOf?)
    attachQueue m (g.queue.bind valueOf?)

def fixedFieldsBuilt (market : Address) : LogEvent where
  level := .info
  message := "Snapshot du marché construit (champs fixes uniquement)"
  fields := [("market", .text market.text)]

/-- Every slot of a decoded queue has been visited, and those without a trade were skipped. -/
def queueWalked (q : EventQueue) : LogEvent where
  level := .debug
  message := "Slots de l'Event Queue parcourus"
  fields := [("capacity", .nat q.capacity), ("fills", .nat q.events.length),
    ("skipped", .nat (q.capacity - q.events.length))]

def queueDecoded (address : Address) (q : EventQueue) : LogEvent where
  level := .debug
  message := "Event Queue décodée"
  fields := [("event_queue", .text address.text), ("capacity", .nat q.capacity),
    ("head", .nat q.header.head.toNat), ("count", .nat q.header.count.toNat),
    ("seq_num", .nat q.header.seqNum.toNat), ("fills", .nat q.events.length)]

def snapshotBuilt (address : Address) (m : Market) : LogEvent where
  level := .info
  message := "Snapshot du marché construit"
  fields := [("market", .text address.text), ("base_decimals", .nat m.baseDecimals.toNat),
    ("quote_decimals", .nat m.quoteDecimals.toNat), ("order_books", .bool m.bidBook.isSome),
    ("fills", .nat (m.decodedQueue.elim 0 fun q => q.events.length))]

def completionEvents (address : Address) (m : Market) : List LogEvent :=
  match m.decodedQueue with
  | some q => [queueWalked q, queueDecoded m.eventQueue q, snapshotBuilt address m]
  | none => [snapshotBuilt address m]

structure SnapshotBuilder where
  address : Address
  options : SnapshotOptions
  /-- The bytes of the market account that the first successful build used. -/
  pinned : Option Bytes

namespace SnapshotBuilder

def new (address : Address) : SnapshotBuilder := ⟨address, ⟨false, false, false⟩, none⟩

def withOptions (b : SnapshotBuilder) (options : SnapshotOptions) : SnapshotBuilder :=
  { b with options := options }

/-- The snapshot that belongs to the bytes of a market account. -/
def assemble (source : Source σ) (b : SnapshotBuilder) (data : Bytes) :
    Step σ (Except SnapshotError Market) := do
  match decodeMarket data with
  | .error e => return .error (.decode AccountKind.market.name b.address e)
  | .ok m =>
    if b.options.needsDecimals then
      let gathered ← gather source b.options m
      let result := gathered.attach m
      match result with
      | .ok m => (completionEvents b.address m).forM Step.emit
      | .error _ => pure ()
      return result
    else
      Step.emit (fixedFieldsBuilt b.address)
      return .ok m

/-- The bytes of the market account: the pinned ones, or else fetched. -/
def marketData (source : Source σ) (b : SnapshotBuilder) : Step σ (Except FetchError Bytes) :=
  match b.pinned with
  | some data => pure (.ok data)
  | none => Step.ask source .market b.address

/-- Builds a snapshot. The bytes of the market account are pinned only once a build succeeds. -/
def build (source : Source σ) (b : SnapshotBuilder) :
    Step σ (Except SnapshotError Market × SnapshotBuilder) := do
  match ← b.marketData source with
  | .error e => return (.error (.fetch e), b)
  | .ok data =>
    match ← b.assemble source data with
    | .error e => return (.error e, b)
    | .ok m => return (.ok m, { b with pinned := some data })

/-- Builds anew and takes over the live parts; the market stays as it is if that fails. -/
def reload (source : Source σ) (b : SnapshotBuilder) (m : Market) :
    Step σ (Except SnapshotError Unit × Market × SnapshotBuilder) := do
  match ← b.build source with
  | (.error e, b) => return (.error e, m, b)
  | (.ok fresh, b) => return (.ok (), m.replaceLive fresh, b)

end SnapshotBuilder

end SerumDex
