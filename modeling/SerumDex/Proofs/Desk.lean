import SerumDex.Proofs.BuildResult
import SerumDex.Proofs.MarketAccount

/-! Runs of several builders that share a source and a cache. Options may be changed between calls,
accounts may change at any time, and markets that were handed out may be copied, and reloaded by
their builder. -/
namespace SerumDex

/-- A market that was handed out: its builder, the options of the build that it came from, and what
has become of it. -/
structure Issued where
  builder : Nat
  options : SnapshotOptions
  market : Market

structure Desk (σ : Type) where
  workspace : Workspace σ
  builders : List SnapshotBuilder
  issued : List Issued

inductive Action (σ : Type) where
  | world (s : σ)
  | launch (address : Address)
  | choose (builder : Nat) (options : SnapshotOptions)
  | build (builder : Nat)
  | copy (market : Nat)
  /-- A builder reloads a market that it handed out. -/
  | reload (builder market : Nat)
  /-- A builder reloads any other market, which is not kept at the desk. -/
  | reloadOther (builder : Nat) (market : Market)

namespace Desk

variable {σ : Type}

def opening (s : σ) (cache : DecimalsCache) : Desk σ := ⟨⟨s, cache, [], []⟩, [], []⟩

def cache (d : Desk σ) : DecimalsCache := d.workspace.cache

def build (source : Source σ) (d : Desk σ) (i : Nat) (b : SnapshotBuilder) : Desk σ :=
  match (b.build source).run d.workspace with
  | ((.error _, b'), w) => ⟨w, d.builders.set i b', d.issued⟩
  | ((.ok m, b'), w) => ⟨w, d.builders.set i b', d.issued ++ [⟨i, b.options, m⟩]⟩

def reload (source : Source σ) (d : Desk σ) (k : Nat) (r : Issued) (b : SnapshotBuilder) : Desk σ :=
  let ((_, m, b'), w) := (b.reload source r.market).run d.workspace
  ⟨w, d.builders.set r.builder b', d.issued.set k { r with market := m }⟩

def reloadOther (source : Source σ) (d : Desk σ) (i : Nat) (m : Market) (b : SnapshotBuilder) :
    Desk σ :=
  let ((_, _, b'), w) := (b.reload source m).run d.workspace
  { d with workspace := w, builders := d.builders.set i b' }

/-- One action. A call of a builder that does not exist, or on a market that it did not hand out, is
none. -/
def perform (source : Source σ) (d : Desk σ) : Action σ → Desk σ
  | .world s => { d with workspace := { d.workspace with source := s } }
  | .launch address => { d with builders := d.builders ++ [SnapshotBuilder.new address] }
  | .choose i o => { d with builders := d.builders.modify i fun b => b.withOptions o }
  | .build i =>
    match d.builders[i]? with
    | some b => d.build source i b
    | none => d
  | .copy k =>
    match d.issued[k]? with
    | some r => { d with issued := d.issued ++ [r] }
    | none => d
  | .reload i k =>
    match d.builders[i]?, d.issued[k]? with
    | some b, some r => if r.builder = i then d.reload source k r b else d
    | _, _ => d
  | .reloadOther i m =>
    match d.builders[i]? with
    | some b => d.reloadOther source i m b
    | none => d

def run (source : Source σ) (d : Desk σ) (actions : List (Action σ)) : Desk σ :=
  actions.foldl (perform source) d

/-- The desks that are reached from one without builders, whatever its cache held. -/
def Reachable (source : Source σ) (d : Desk σ) : Prop :=
  ∃ s cache actions, (opening s cache).run source actions = d

end Desk

section Sample

def sampleAddress (n : UInt8) : Address := ⟨List.replicate 32 n, rfl⟩

def sampleRecord : MarketRecord where
  ownAddress := sampleAddress 1
  vaultSignerNonce := 0
  baseMint := sampleAddress 2
  quoteMint := sampleAddress 3
  baseVault := sampleAddress 4
  baseDepositsTotal := 0
  baseFeesAccrued := 0
  quoteVault := sampleAddress 5
  quoteDepositsTotal := 0
  quoteFeesAccrued := 0
  quoteDustThreshold := 0
  requestQueue := sampleAddress 6
  eventQueue := sampleAddress 7
  bids := sampleAddress 8
  asks := sampleAddress 9
  baseLotSize := 10
  quoteLotSize := 1
  feeRateBps := 22
  referrerRebatesAccrued := 0

def sampleMint (decimals : UInt8) : Bytes :=
  MintBase.layout.write ⟨0, sampleAddress 0, 0, decimals, 1, 0, sampleAddress 0⟩

/-- The accounts of the sample market: both mints have the decimals that are the state, and no order
is in its books. -/
def sampleSource : Source UInt8 := fun address decimals =>
  let account :=
    if address = sampleRecord.ownAddress then
      some (writtenHead 3 ++ MarketRecord.layout.write sampleRecord)
    else if address = sampleRecord.baseMint ∨ address = sampleRecord.quoteMint then
      some (sampleMint decimals)
    else if address = sampleRecord.bids then some (writtenHead 33)
    else if address = sampleRecord.asks then some (writtenHead 65)
    else none
  (account.elim (.error (.notFound address)) .ok, decimals)

def sampleRun (actions : List (Action UInt8)) : Desk UInt8 :=
  (Desk.opening 6 .empty).run sampleSource (.launch sampleRecord.ownAddress :: actions)

def sampleAccount : Bytes := writtenHead 3 ++ MarketRecord.layout.write sampleRecord

theorem decodeMarket_sampleAccount :
    decodeMarket sampleAccount = .ok (sampleRecord.toMarket (AccountFlags.ofBits 3)) := by
  have h := decodeMarket_written 3 sampleRecord [] rfl
  rwa [List.append_nil] at h

/-- A builder that has pinned the sample account. -/
def sampleBuilder (options : SnapshotOptions) : SnapshotBuilder :=
  ⟨sampleRecord.ownAddress, options, some sampleAccount⟩

def sampleWorkspace : Workspace UInt8 := ⟨6, .empty, [], []⟩

theorem reachable_sampleRun (actions : List (Action UInt8)) :
    (sampleRun actions).Reachable sampleSource := ⟨6, .empty, _, rfl⟩

end Sample

variable {σ : Type} {source : Source σ}

/-- A reload is a build whose market gives its live parts to the old one. -/
theorem reload_run_eq (b : SnapshotBuilder) (m : Market) (w : Workspace σ) :
    (b.reload source m).run w =
      match (b.build source).run w with
      | ((.error e, b'), w') => ((.error e, m, b'), w')
      | ((.ok fresh, b'), w') => ((.ok (), m.replaceLive fresh, b'), w') := by
  rw [SnapshotBuilder.reload, Step.run_bind]
  rcases (b.build source).run w with ⟨⟨result, b'⟩, w'⟩
  cases result <;> rfl

theorem reload_of_ok {b b' : SnapshotBuilder} {w w' : Workspace σ} {fresh : Market}
    (h : (b.build source).run w = ((.ok fresh, b'), w')) (m : Market) :
    (b.reload source m).run w = ((.ok (), m.replaceLive fresh, b'), w') := by
  rw [reload_run_eq, h]

theorem reload_of_error {b b' : SnapshotBuilder} {w w' : Workspace σ} {e : SnapshotError}
    (h : (b.build source).run w = ((.error e, b'), w')) (m : Market) :
    (b.reload source m).run w = ((.error e, m, b'), w') := by
  rw [reload_run_eq, h]

/-- All that an action can do to a desk. -/
inductive Effect (source : Source σ) (d : Desk σ) : Desk σ → Prop
  | idle : Effect source d d
  | world (s : σ) : Effect source d { d with workspace := { d.workspace with source := s } }
  | launch (address : Address) :
      Effect source d { d with builders := d.builders ++ [SnapshotBuilder.new address] }
  | choose (i : Nat) (o : SnapshotOptions) :
      Effect source d { d with builders := d.builders.modify i fun b => b.withOptions o }
  | copied (r : Issued) (hr : r ∈ d.issued) : Effect source d { d with issued := d.issued ++ [r] }
  /-- A call that touches no market at the desk: it failed, or it was on a market from elsewhere. -/
  | called {i : Nat} {b b' : SnapshotBuilder} {w : Workspace σ} (hb : d.builders[i]? = some b)
      (result : Except SnapshotError Market)
      (h : (b.build source).run d.workspace = ((result, b'), w)) :
      Effect source d ⟨w, d.builders.set i b', d.issued⟩
  | built {i : Nat} {b b' : SnapshotBuilder} {w : Workspace σ} {m : Market}
      (hb : d.builders[i]? = some b) (h : (b.build source).run d.workspace = ((.ok m, b'), w)) :
      Effect source d ⟨w, d.builders.set i b', d.issued ++ [⟨i, b.options, m⟩]⟩
  | reloaded {b b' : SnapshotBuilder} {w : Workspace σ} {fresh : Market} (k : Nat) (r : Issued)
      (hr : r ∈ d.issued) (hb : d.builders[r.builder]? = some b)
      (h : (b.build source).run d.workspace = ((.ok fresh, b'), w)) :
      Effect source d ⟨w, d.builders.set r.builder b',
        d.issued.set k { r with market := r.market.replaceLive fresh }⟩

namespace Desk

theorem build_effect {d : Desk σ} {i : Nat} {b : SnapshotBuilder} (hb : d.builders[i]? = some b) :
    Effect source d (d.build source i b) := by
  rcases h : (b.build source).run d.workspace with ⟨⟨result, b'⟩, w⟩
  rw [Desk.build, h]
  cases result with
  | error e => exact .called hb _ h
  | ok m => exact .built hb h

theorem reload_effect {d : Desk σ} {k : Nat} {r : Issued} {b : SnapshotBuilder}
    (hb : d.builders[r.builder]? = some b) (hr : d.issued[k]? = some r) :
    Effect source d (d.reload source k r b) := by
  rcases h : (b.build source).run d.workspace with ⟨⟨result, b'⟩, w⟩
  cases result with
  | error e =>
    -- The market is put back as it was, which leaves the list as it was.
    obtain ⟨hk, hr⟩ := List.getElem?_eq_some_iff.mp hr
    have hsame : d.issued.set k r = d.issued := by
      rw [← hr]
      exact List.set_getElem_self hk
    rw [Desk.reload, reload_of_error h]
    change Effect source d ⟨w, d.builders.set r.builder b', d.issued.set k r⟩
    rw [hsame]
    exact .called hb _ h
  | ok fresh =>
    rw [Desk.reload, reload_of_ok h]
    exact .reloaded k r (List.mem_of_getElem? hr) hb h

theorem reloadOther_effect {d : Desk σ} {i : Nat} {b : SnapshotBuilder}
    (hb : d.builders[i]? = some b) (m : Market) : Effect source d (d.reloadOther source i m b) := by
  rcases h : (b.build source).run d.workspace with ⟨⟨result, b'⟩, w⟩
  cases result with
  | error e =>
    rw [Desk.reloadOther, reload_of_error h]
    exact .called hb _ h
  | ok fresh =>
    rw [Desk.reloadOther, reload_of_ok h]
    exact .called hb _ h

theorem perform_effect (d : Desk σ) (a : Action σ) : Effect source d (d.perform source a) := by
  cases a with
  | world s => exact .world s
  | launch address => exact .launch address
  | choose i o => exact .choose i o
  | build i =>
    simp only [perform]
    cases hb : d.builders[i]? with
    | none => exact .idle
    | some b => exact build_effect hb
  | copy k =>
    simp only [perform]
    cases hr : d.issued[k]? with
    | none => exact .idle
    | some r => exact .copied r (List.mem_of_getElem? hr)
  | reload i k =>
    simp only [perform]
    split
    · next b r hb hr =>
      by_cases hi : r.builder = i
      · rw [if_pos hi]
        rw [← hi] at hb
        exact reload_effect hb hr
      · rw [if_neg hi]
        exact .idle
    · exact .idle
  | reloadOther i m =>
    simp only [perform]
    cases hb : d.builders[i]? with
    | none => exact .idle
    | some b => exact reloadOther_effect hb m

end Desk

end SerumDex
