import Mathlib.Logic.Function.Basic
import SerumDex.Proofs.Requests

/-! The requests of a snapshot side by side. Each of them takes its steps in turn, a step being one
access to the cache or to the source, and between two steps of one request any others may run.
However the steps are interleaved, every request ends as it would have ended alone, as long as the
source answers by address. -/
namespace SerumDex

variable {σ : Type}

/-- The source after it has been asked for some addresses. -/
def sourceAfter (source : Source σ) (asked : List Address) (s : σ) : σ :=
  asked.foldl (fun s address => (source address s).2) s

/-- From here on the answer for an address stays the same, whatever is asked for. -/
def Steady (source : Source σ) (s : σ) : Prop :=
  ∀ asked address, (source address (sourceAfter source asked s)).1 = (source address s).1

theorem sourceAfter_append_singleton (source : Source σ) (asked : List Address) (address : Address)
    (s : σ) : sourceAfter source (asked ++ [address]) s =
      (source address (sourceAfter source asked s)).2 := by
  simp only [sourceAfter, List.foldl_append, List.foldl_cons, List.foldl_nil]

theorem Steady.next {source : Source σ} {s : σ} (h : Steady source s) (address : Address) :
    Steady source (source address s).2 := by
  intro asked a
  have hlater : (source a (sourceAfter source asked (source address s).2)).1 = (source a s).1 :=
    h (address :: asked) a
  have hnow : (source a (source address s).2).1 = (source a s).1 := h [address] a
  rw [hlater, hnow]

/-- The mints of a market, by what is counted in them. -/
inductive MintRole where
  | base
  | quote
  deriving DecidableEq

def MintRole.mint (m : MarketRecord) : MintRole → Address
  | base => m.baseMint
  | quote => m.quoteMint

def SnapshotOptions.wants (o : SnapshotOptions) : LivePart → Bool :=
  LivePart.choose o.orderBooks o.orderBooks o.eventQueue

/-- How far the lookup of a mint has come: not begun, not found in the cache, with an answer on its
way, or finished. -/
inductive LookupPhase where
  | idle
  | missed
  | asked (answer : Except FetchError Bytes)
  | done (outcome : Except SnapshotError UInt8)

/-- How far the fetch of a live part has come. -/
inductive LivePhase where
  | idle
  | asked (answer : Except FetchError Bytes)
  | done (outcome : Option (Except SnapshotError Bytes))

namespace LookupPhase

/-- The next step of a lookup: it reads the cache, issues its fetch, or takes the answer and enters
it. A lookup that is done has none. -/
def next (source : Source σ) (mint : Address) : LookupPhase → Step σ LookupPhase
  | idle => do
    match ← Step.updateCache (startLookup mint) with
    | .known decimals => return done (.ok decimals)
    | .cached decimals =>
      Step.emit (cacheHit mint decimals)
      return done (.ok decimals)
    | .missing =>
      Step.emit (cacheMiss mint)
      return missed
  | missed => return asked (← Step.ask source .decimals mint)
  | asked answer => return done (← Step.updateCache (finishLookup mint answer))
  | done outcome => return done outcome

def outcome? : LookupPhase → Option (Except SnapshotError UInt8)
  | done outcome => some outcome
  | _ => none

theorem eq_done {phase : LookupPhase} {outcome : Except SnapshotError UInt8}
    (h : phase.outcome? = some outcome) : phase = done outcome := by
  cases phase with
  | done outcome' => rw [Option.some.inj h]
  | idle => exact nomatch h
  | missed => exact nomatch h
  | asked answer => exact nomatch h

/-- The steps that a lookup may still need. -/
def left : LookupPhase → Nat
  | idle => 3
  | missed => 2
  | asked _ => 1
  | done _ => 0

end LookupPhase

namespace LivePhase

/-- The next step of a fetch: it is issued if the part is wanted, or its answer is taken. -/
def next (source : Source σ) (wanted : Bool) (address : Address) : LivePhase → Step σ LivePhase
  | idle => do
    if wanted then return asked (← Step.ask source .live address)
    else return done none
  | asked answer => return done (some (answer.mapError .fetch))
  | done outcome => return done outcome

def outcome? : LivePhase → Option (Option (Except SnapshotError Bytes))
  | done outcome => some outcome
  | _ => none

theorem eq_done {phase : LivePhase} {outcome : Option (Except SnapshotError Bytes)}
    (h : phase.outcome? = some outcome) : phase = done outcome := by
  cases phase with
  | done outcome' => rw [Option.some.inj h]
  | idle => exact nomatch h
  | asked answer => exact nomatch h

def left : LivePhase → Nat
  | idle => 2
  | asked _ => 1
  | done _ => 0

end LivePhase

/-- The request that takes the next step. -/
inductive Turn where
  | lookup (role : MintRole)
  | live (part : LivePart)
  deriving DecidableEq

structure Race (σ : Type) where
  workspace : Workspace σ
  lookups : MintRole → LookupPhase
  lives : LivePart → LivePhase

namespace Race

def start (w : Workspace σ) : Race σ := ⟨w, fun _ => .idle, fun _ => .idle⟩

def advance (source : Source σ) (o : SnapshotOptions) (m : MarketRecord) (r : Race σ) :
    Turn → Race σ
  | .lookup role =>
    let out := ((r.lookups role).next source (role.mint m)).run r.workspace
    { r with workspace := out.2, lookups := Function.update r.lookups role out.1 }
  | .live part =>
    let out := ((r.lives part).next source (o.wants part) (part.address m)).run r.workspace
    { r with workspace := out.2, lives := Function.update r.lives part out.1 }

/-- The requests take their steps in the order of a schedule. -/
def run (source : Source σ) (o : SnapshotOptions) (m : MarketRecord) (r : Race σ)
    (schedule : List Turn) : Race σ :=
  schedule.foldl (advance source o m) r

/-- What the requests brought, once all of them are done. -/
def gathered? (r : Race σ) : Option Gathered := do
  let base ← (r.lookups .base).outcome?
  let quote ← (r.lookups .quote).outcome?
  let bids ← (r.lives .bids).outcome?
  let asks ← (r.lives .asks).outcome?
  let queue ← (r.lives .queue).outcome?
  return ⟨base, quote, bids, asks, queue⟩

theorem eq_done_of_gathered? {r : Race σ} {g : Gathered} (h : r.gathered? = some g) :
    r.lookups .base = .done g.baseDecimals ∧ r.lookups .quote = .done g.quoteDecimals ∧
      r.lives .bids = .done g.bids ∧ r.lives .asks = .done g.asks ∧
      r.lives .queue = .done g.queue := by
  simp only [gathered?, Option.bind_eq_bind, Option.bind_eq_some_iff] at h
  obtain ⟨base, hbase, quote, hquote, bids, hbids, asks, hasks, queue, hqueue, h⟩ := h
  rw [← Option.some.inj h]
  exact ⟨LookupPhase.eq_done hbase, LookupPhase.eq_done hquote, LivePhase.eq_done hbids,
    LivePhase.eq_done hasks, LivePhase.eq_done hqueue⟩

/-- The steps that a request may still need. -/
def left (r : Race σ) : Turn → Nat
  | .lookup role => (r.lookups role).left
  | .live part => (r.lives part).left

end Race

end SerumDex
