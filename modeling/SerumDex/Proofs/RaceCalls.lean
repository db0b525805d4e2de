import SerumDex.Proofs.Desk
import SerumDex.Proofs.RaceTurns

namespace SerumDex

variable {σ : Type} {source : Source σ}

/-- The turns of a request until it waits for an answer or is done. A lookup that does not find its
mint issues its fetch at once, with no turn of another request in between. -/
def Turn.poll : Turn → List Turn
  | lookup role => [.lookup role, .lookup role]
  | live part => [.live part]

namespace Race

section InOrder

variable {o : SnapshotOptions} {m : MarketRecord}

/-- One request after another: both mints, both books, and the queue. -/
def inOrder : List Turn :=
  [Turn.lookup .base, .lookup .base, .lookup .quote, .lookup .quote, .live .bids, .live .bids,
    .live .asks, .live .asks, .live .queue, .live .queue].flatMap Turn.poll

theorem inOrder_eq : inOrder =
    List.replicate 4 (.lookup .base) ++ List.replicate 4 (.lookup .quote) ++
      List.replicate 2 (.live .bids) ++ List.replicate 2 (.live .asks) ++
      List.replicate 2 (.live .queue) := rfl

theorem run_append (r : Race σ) (schedule later : List Turn) :
    r.run source o m (schedule ++ later) =
      (r.run source o m schedule).run source o m later := List.foldl_append

theorem run_lookup (r : Race σ) (role : MintRole) (h : r.lookups role = .idle) :
    r.run source o m (List.replicate 4 (.lookup role)) =
      let out := (lookupDecimals source (role.mint m)).run r.workspace
      { r with
        workspace := out.2
        lookups := Function.update r.lookups role (.done out.1) } := by
  simp only [run, List.replicate_succ, List.replicate_zero, List.foldl_cons, List.foldl_nil,
    advance, Function.update_self, Function.update_idem, h, LookupPhase.next_idle_run,
    lookupDecimals_run_eq]
  rcases startLookup (role.mint m) r.workspace.cache with ⟨start, cache⟩
  cases start <;> rfl

theorem run_live (r : Race σ) (part : LivePart) (h : r.lives part = .idle) :
    r.run source o m (List.replicate 2 (.live part)) =
      let out := (fetchIf source (o.wants part) (part.address m)).run r.workspace
      { r with
        workspace := out.2
        lives := Function.update r.lives part (.done out.1) } := by
  simp only [run, List.replicate_succ, List.replicate_zero, List.foldl_cons, List.foldl_nil,
    advance, Function.update_self, Function.update_idem, h]
  cases o.wants part <;> rfl

/-- The requests in their order, one after another, are what a build does. -/
theorem run_inOrder (source : Source σ) (o : SnapshotOptions) (m : Market) (w : Workspace σ) :
    let r := (start w).run source o m.toMarketRecord inOrder
    r.gathered? = some ((gather source o m).run w).1 ∧
      r.workspace = ((gather source o m).run w).2 := by
  rw [inOrder_eq]
  simp only [run_append]
  rw [run_lookup _ .base rfl, run_lookup _ .quote rfl, run_live _ .bids rfl, run_live _ .asks rfl,
    run_live _ .queue rfl]
  exact ⟨rfl, rfl⟩

end InOrder

end Race

/-- What the requests bring if they take their steps in the order of a schedule that ends them. -/
def gatherBy (source : Source σ) (o : SnapshotOptions) (m : MarketRecord) (schedule : List Turn) :
    Step σ (Option Gathered) := fun w =>
  let r := (Race.start w).run source o m schedule
  (r.gathered?, r.workspace)

namespace SnapshotBuilder

/-- As `assemble`, but for the order of the steps. What is logged at the end is left out. -/
def assembleBy (source : Source σ) (b : SnapshotBuilder) (schedule : List Turn) (data : Bytes) :
    Step σ (Option (Except SnapshotError Market)) := do
  match decodeMarket data with
  | .error e => return some (.error (.decode AccountKind.market.name b.address e))
  | .ok m =>
    if b.options.needsDecimals then
      let gathered ← gatherBy source b.options m.toMarketRecord schedule
      return gathered.map fun g => g.attach m
    else return some (.ok m)

/-- A builder pins the bytes that a market came from. -/
def conclude (b : SnapshotBuilder) (data : Bytes) :
    Except SnapshotError Market → Except SnapshotError Market × SnapshotBuilder
  | .error e => (.error e, b)
  | .ok m => (.ok m, { b with pinned := some data })

/-- As `build`, but the requests take their steps in the order of a schedule. There is no result if
some request is not done at its end. -/
def buildBy (source : Source σ) (b : SnapshotBuilder) (schedule : List Turn) :
    Step σ (Option (Except SnapshotError Market × SnapshotBuilder)) := do
  match ← b.marketData source with
  | .error e => return some (.error (.fetch e), b)
  | .ok data =>
    let result ← b.assembleBy source schedule data
    return result.map (b.conclude data)

/-- What a reload makes of the build in it. -/
def renew (m : Market) : Except SnapshotError Market × SnapshotBuilder →
    Except SnapshotError Unit × Market × SnapshotBuilder
  | (.error e, b) => (.error e, m, b)
  | (.ok fresh, b) => (.ok (), m.replaceLive fresh, b)

/-- As `reload`, but with a build whose requests take their steps in the order of a schedule. -/
def reloadBy (source : Source σ) (b : SnapshotBuilder) (m : Market) (schedule : List Turn) :
    Step σ (Option (Except SnapshotError Unit × Market × SnapshotBuilder)) := do
  let result ← b.buildBy source schedule
  return result.map (renew m)

/-- What is seen of the lookups of a call. -/
def eventsBy (source : Source σ) (b : SnapshotBuilder) (schedule : List Turn) (w : Workspace σ) :
    List LookupEvent :=
  match (b.marketData source).run w with
  | (.error _, _) => []
  | (.ok data, w₁) =>
    match decodeMarket data with
    | .error _ => []
    | .ok m =>
      if b.options.needsDecimals then
        (Race.start w₁).events source b.options m.toMarketRecord schedule
      else []

variable {b : SnapshotBuilder} {w w₁ : Workspace σ} {data : Bytes} {m : Market}

theorem fst_conclude (b : SnapshotBuilder) (data : Bytes) (result : Except SnapshotError Market) :
    (b.conclude data result).1 = result := by
  cases result <;> rfl

theorem of_conclude_ok {b' : SnapshotBuilder} {result : Except SnapshotError Market}
    (h : b.conclude data result = (.ok m, b')) :
    result = .ok m ∧ b' = { b with pinned := some data } := by
  obtain rfl : result = .ok m := by rw [← fst_conclude b data result, h]
  exact ⟨rfl, (congrArg Prod.snd h).symm⟩

theorem of_conclude_error {b' : SnapshotBuilder} {result : Except SnapshotError Market}
    {e : SnapshotError} (h : b.conclude data result = (.error e, b')) :
    result = .error e ∧ b' = b := by
  obtain rfl : result = .error e := by rw [← fst_conclude b data result, h]
  exact ⟨rfl, (congrArg Prod.snd h).symm⟩

theorem buildBy_of_marketData (schedule : List Turn)
    (hdata : (b.marketData source).run w = (.ok data, w₁)) :
    (b.buildBy source schedule).run w =
      (((b.assembleBy source schedule data).run w₁).1.map (b.conclude data),
        ((b.assembleBy source schedule data).run w₁).2) := by
  rw [buildBy, Step.run_bind, hdata]
  rfl

theorem build_of_marketData_eq (hdata : (b.marketData source).run w = (.ok data, w₁)) :
    (b.build source).run w =
      (b.conclude data ((b.assemble source data).run w₁).1,
        ((b.assemble source data).run w₁).2) := by
  rw [build_run_eq, hdata]
  simp only
  rcases (b.assemble source data).run w₁ with ⟨result, w₂⟩
  cases result <;> rfl

theorem assembleBy_of_needed (source : Source σ) (schedule : List Turn) (w : Workspace σ)
    (hm : decodeMarket data = .ok m) (hn : b.options.needsDecimals = true) :
    (b.assembleBy source schedule data).run w =
      (((gatherBy source b.options m.toMarketRecord schedule).run w).1.map fun g => g.attach m,
        ((gatherBy source b.options m.toMarketRecord schedule).run w).2) := by
  unfold assembleBy
  simp only [hm, hn, if_true]
  rfl

theorem buildBy_of_needed (schedule : List Turn)
    (hdata : (b.marketData source).run w = (.ok data, w₁)) (hm : decodeMarket data = .ok m)
    (hn : b.options.needsDecimals = true) :
    (b.buildBy source schedule).run w =
      (((Race.start w₁).run source b.options m.toMarketRecord schedule).gathered?.map
          fun g => b.conclude data (g.attach m),
        ((Race.start w₁).run source b.options m.toMarketRecord schedule).workspace) := by
  rw [buildBy_of_marketData schedule hdata, assembleBy_of_needed source schedule w₁ hm hn,
    Option.map_map]
  rfl

/-- All that a call can do, with what is seen of its lookups. -/
inductive Called (source : Source σ) (b : SnapshotBuilder) (schedule : List Turn)
    (w : Workspace σ) :
    Option (Except SnapshotError Market × SnapshotBuilder) → Workspace σ → List LookupEvent → Prop
  | unfetched {w₁ : Workspace σ} {e : FetchError}
      (hdata : (b.marketData source).run w = (.error e, w₁)) :
      Called source b schedule w (some (.error (.fetch e), b)) w₁ []
  | undecoded {data : Bytes} {w₁ : Workspace σ} {e : DecodeError}
      (hdata : (b.marketData source).run w = (.ok data, w₁)) (hm : decodeMarket data = .error e) :
      Called source b schedule w
        (some (.error (.decode AccountKind.market.name b.address e), b)) w₁ []
  /-- Nothing but the market account was wanted. -/
  | fixed {data : Bytes} {w₁ : Workspace σ} {m : Market}
      (hdata : (b.marketData source).run w = (.ok data, w₁)) (hm : decodeMarket data = .ok m)
      (hn : b.options.needsDecimals = false) :
      Called source b schedule w (some (.ok m, { b with pinned := some data })) w₁ []
  | raced {data : Bytes} {w₁ : Workspace σ} {m : Market}
      (hdata : (b.marketData source).run w = (.ok data, w₁)) (hm : decodeMarket data = .ok m)
      (hn : b.options.needsDecimals = true) :
      Called source b schedule w
        (((Race.start w₁).run source b.options m.toMarketRecord schedule).gathered?.map
          fun g => b.conclude data (g.attach m))
        ((Race.start w₁).run source b.options m.toMarketRecord schedule).workspace
        ((Race.start w₁).events source b.options m.toMarketRecord schedule)

theorem buildBy_called {schedule : List Turn} {w' : Workspace σ}
    {result : Option (Except SnapshotError Market × SnapshotBuilder)}
    (h : (b.buildBy source schedule).run w = (result, w')) :
    Called source b schedule w result w' (b.eventsBy source schedule w) := by
  obtain rfl : _ = result := congrArg Prod.fst h
  obtain rfl : _ = w' := congrArg Prod.snd h
  rcases hdata : (b.marketData source).run w with ⟨fetched, w₁⟩
  cases fetched with
  | error e =>
    have hrun : (b.buildBy source schedule).run w = (some (.error (.fetch e), b), w₁) := by
      rw [buildBy, Step.run_bind, hdata]
      rfl
    have hevents : b.eventsBy source schedule w = [] := by
      rw [eventsBy, hdata]
    rw [hrun, hevents]
    exact .unfetched hdata
  | ok data =>
    rw [eventsBy, hdata]
    cases hm : decodeMarket data with
    | error e =>
      rw [buildBy_of_marketData schedule hdata]
      simp only [assembleBy, hm]
      exact .undecoded hdata hm
    | ok m =>
      cases hn : b.options.needsDecimals with
      | false =>
        rw [buildBy_of_marketData schedule hdata]
        simp only [assembleBy, hm, hn]
        exact .fixed hdata hm hn
      | true =>
        rw [buildBy_of_needed schedule hdata hm hn]
        simp only [hm, if_true]
        exact .raced hdata hm hn

/-- A build is a call whose requests take their steps one after another, but for what it logs. -/
theorem buildBy_inOrder (source : Source σ) (b : SnapshotBuilder) (w : Workspace σ) :
    ∃ log, (b.buildBy source Race.inOrder).run w =
      (some ((b.build source).run w).1, { ((b.build source).run w).2 with log := log }) := by
  rcases hdata : (b.marketData source).run w with ⟨fetched, w₁⟩
  cases fetched with
  | error e =>
    rw [build_run_eq, hdata, buildBy, Step.run_bind, hdata]
    exact ⟨w₁.log, rfl⟩
  | ok data =>
    rw [buildBy_of_marketData _ hdata, build_of_marketData_eq hdata]
    cases hm : decodeMarket data with
    | error e =>
      unfold assembleBy assemble
      rw [hm]
      exact ⟨w₁.log, rfl⟩
    | ok m =>
      cases hn : b.options.needsDecimals with
      | false =>
        unfold assembleBy assemble
        rw [hm, hn]
        exact ⟨w₁.log, rfl⟩
      | true =>
        obtain ⟨es, hassemble⟩ := assemble_run source b w₁ hm hn
        obtain ⟨hgathered, hworkspace⟩ := Race.run_inOrder source b.options m w₁
        rw [assembleBy_of_needed source _ w₁ hm hn, hassemble]
        have hgather : (gatherBy source b.options m.toMarketRecord Race.inOrder).run w₁ =
            (some ((gather source b.options m).run w₁).1, ((gather source b.options m).run w₁).2) :=
          Prod.ext hgathered hworkspace
        rw [hgather]
        exact ⟨((gather source b.options m).run w₁).2.log, rfl⟩

theorem reload_renew (source : Source σ) (b : SnapshotBuilder) (m : Market) (w : Workspace σ) :
    (b.reload source m).run w =
      (renew m ((b.build source).run w).1, ((b.build source).run w).2) := by
  rw [reload_run_eq]
  rcases (b.build source).run w with ⟨⟨result, b'⟩, w'⟩
  cases result <;> rfl

theorem reloadBy_renew (source : Source σ) (b : SnapshotBuilder) (m : Market)
    (schedule : List Turn) (w : Workspace σ) :
    (b.reloadBy source m schedule).run w =
      (((b.buildBy source schedule).run w).1.map (renew m),
        ((b.buildBy source schedule).run w).2) := rfl

/-- A reload that ends has ended the build in it, which leaves the same builder. -/
theorem buildBy_of_reloadBy {source : Source σ} {b b' : SnapshotBuilder} {m m' : Market}
    {schedule : List Turn} {w w' : Workspace σ} {result : Except SnapshotError Unit}
    (h : (b.reloadBy source m schedule).run w = (some (result, m', b'), w')) :
    ∃ outcome, (b.buildBy source schedule).run w = (some (outcome, b'), w') ∧
      renew m (outcome, b') = (result, m', b') := by
  rcases hbuild : (b.buildBy source schedule).run w with ⟨built, w''⟩
  rw [reloadBy_renew, hbuild] at h
  obtain rfl : w'' = w' := congrArg Prod.snd h
  obtain ⟨⟨outcome, b''⟩, rfl, hrenew⟩ := Option.map_eq_some_iff.mp (congrArg Prod.fst h)
  have hbuilder : b'' = b' := by
    cases outcome with
    | error e => exact congrArg (fun out => out.2.2) hrenew
    | ok fresh => exact congrArg (fun out => out.2.2) hrenew
  rw [hbuilder] at hrenew ⊢
  exact ⟨outcome, rfl, hrenew⟩

theorem reloadBy_inOrder (source : Source σ) (b : SnapshotBuilder) (m : Market)
    (w : Workspace σ) :
    ∃ log, (b.reloadBy source m Race.inOrder).run w =
      (some ((b.reload source m).run w).1, { ((b.reload source m).run w).2 with log := log }) := by
  obtain ⟨log, hbuild⟩ := buildBy_inOrder source b w
  rw [reloadBy_renew, hbuild, reload_renew]
  exact ⟨log, rfl⟩

end SnapshotBuilder

section Twins

/-- A market whose two mints are one. -/
def twinRecord : MarketRecord := { sampleRecord with quoteMint := sampleRecord.baseMint }

def twinBuilder : SnapshotBuilder where
  address := twinRecord.ownAddress
  options := ⟨true, false, false⟩
  pinned := some (writtenHead 3 ++ MarketRecord.layout.write twinRecord)

/-- In each round every request takes one step, so that both lookups miss before either fetches. -/
def rounds : List Turn :=
  let round := [Turn.live .asks, .lookup .quote, .live .bids, .lookup .base, .live .queue]
  (List.replicate 3 round).flatten

/-- The sample accounts, with mints that have other decimals after each fetch. -/
def risingSource : Source UInt8 := fun address decimals =>
  ((sampleSource address decimals).1, decimals + 1)

/-- Both lookups fetch, the one of the quote token first, and the answer to the other one comes back
first. -/
def crossed : List Turn :=
  [Turn.live .asks, .live .bids, .live .queue, .lookup .quote, .lookup .base, .lookup .base,
    .lookup .quote, .live .asks, .live .bids].flatMap Turn.poll

end Twins

end SerumDex
