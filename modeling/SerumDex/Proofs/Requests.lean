import SerumDex.Proofs.BuildResult

namespace SerumDex

/-- A part of a market that has an account of its own. -/
inductive LivePart where
  | bids
  | asks
  | queue
  deriving DecidableEq

namespace LivePart

/-- What belongs to a part, out of three things. -/
def choose {α : Type} (ofBids ofAsks ofQueue : α) : LivePart → α
  | bids => ofBids
  | asks => ofAsks
  | queue => ofQueue

def name : LivePart → String := choose "Bids" "Asks" "EventQueue"

def address (m : MarketRecord) : LivePart → Address := choose m.bids m.asks m.eventQueue

/-- The error that the bytes of a part's account make, if they do not decode. -/
def failure? (m : MarketRecord) (s : Scale) (data : Bytes) (p : LivePart) : Option SnapshotError :=
  let defect := p.choose (errorOf? (decodeOrderBookSide m.bids .bid data s))
    (errorOf? (decodeOrderBookSide m.asks .ask data s)) (errorOf? (decodeEventQueue data s))
  defect.map (.decode p.name (p.address m))

end LivePart

def SnapshotOptions.parts (o : SnapshotOptions) : List LivePart :=
  (if o.orderBooks then [.bids, .asks] else []) ++ if o.eventQueue then [.queue] else []

theorem SnapshotOptions.needsDecimals_eq_false {o : SnapshotOptions}
    (h : o.needsDecimals = false) : o.orderBooks = false ∧ o.eventQueue = false := by
  obtain ⟨hparts, _⟩ := Bool.or_eq_false_iff.mp h
  exact Bool.or_eq_false_iff.mp hparts

inductive Request where
  | decimals (mint : Address)
  | live (address : Address)

def SnapshotOptions.requests (o : SnapshotOptions) (m : MarketRecord) : List Request :=
  [.decimals m.baseMint, .decimals m.quoteMint] ++ o.parts.map fun p => .live (p.address m)

variable {σ : Type}

namespace Workspace

/-- The fetches that were made for a purpose between two workspaces. -/
def since (w w' : Workspace σ) (purpose : Purpose) : List Fetch :=
  (w'.fetches.drop w.fetches.length).filter fun f => f.purpose = purpose

theorem since_of_append {w w' : Workspace σ} {fs : List Fetch}
    (h : w'.fetches = w.fetches ++ fs) (purpose : Purpose) :
    w.since w' purpose = fs.filter fun f => f.purpose = purpose := by
  rw [since, h, List.drop_left]

theorem since_of_eq {w w' : Workspace σ} (h : w'.fetches = w.fetches) (purpose : Purpose) :
    w.since w' purpose = [] := by
  rw [since, h, List.drop_length]
  rfl

theorem since_congr {w v v' : Workspace σ} (h : v.fetches = v'.fetches) (purpose : Purpose) :
    w.since v purpose = w.since v' purpose := by
  rw [since, h, since]

theorem since_trans {u v w : Workspace σ} (huv : u.fetches <+: v.fetches)
    (hvw : v.fetches <+: w.fetches) (purpose : Purpose) :
    u.since w purpose = u.since v purpose ++ v.since w purpose := by
  obtain ⟨fs, hv⟩ := huv
  obtain ⟨gs, hw⟩ := hvw
  have hall : w.fetches = u.fetches ++ (fs ++ gs) := by rw [← hw, ← hv, List.append_assoc]
  rw [since_of_append hall, since_of_append hv.symm, since_of_append hw.symm, List.filter_append]

end Workspace

/-- The error that the answer to the fetch of a mint makes, if no mint came back. -/
def mintFailure? (mint : Address) : Except FetchError Bytes → Option SnapshotError
  | .error e => some (.lookup mint e.message)
  | .ok data => (errorOf? (decodeMint mint data)).map fun e => .lookup mint e.message

namespace Request

/-- The error of a request, if it fails. Wrapped SOL and known mints are not fetched, so that a
lookup of them cannot fail. -/
def failure? (source : Source σ) (w : Workspace σ) : Request → Option SnapshotError
  | decimals mint =>
    if mint = Address.wrappedSol ∨ (w.cache.get? mint).isSome then none
    else mintFailure? mint (source mint w.source).1
  | live address => (errorOf? (source address w.source).1).map .fetch

/-- The workspace that a request leaves. -/
def after (source : Source σ) (w : Workspace σ) : Request → Workspace σ
  | decimals mint => ((lookupDecimals source mint).run w).2
  | live address => ((Step.ask source .live address).run w).2

def afterAll (source : Source σ) : List Request → Workspace σ → Workspace σ
  | [], w => w
  | r :: rs, w => afterAll source rs (r.after source w)

/-- The errors of the requests that fail, in the order of the requests. -/
def failures (source : Source σ) : List Request → Workspace σ → List SnapshotError
  | [], _ => []
  | r :: rs, w => (r.failure? source w).toList ++ failures source rs (r.after source w)

variable {source : Source σ}

theorem fetches_after (r : Request) (w : Workspace σ) :
    w.fetches <+: (r.after source w).fetches := by
  cases r with
  | decimals mint => exact (lookupDecimals_run source mint w).fetches_grow
  | live address => exact List.prefix_append _ _

theorem fetches_afterAll (rs : List Request) (w : Workspace σ) :
    w.fetches <+: (afterAll source rs w).fetches := by
  induction rs generalizing w with
  | nil => exact List.prefix_refl _
  | cons r rs ih => exact (r.fetches_after w).trans (ih (r.after source w))

theorem since_live (address : Address) (w : Workspace σ) (purpose : Purpose) :
    w.since ((live address).after source w) purpose =
      if purpose = .live then [⟨.live, address, (source address w.source).1⟩] else [] := by
  have hfetches : ((live address).after source w).fetches =
      w.fetches ++ [⟨.live, address, (source address w.source).1⟩] := rfl
  rw [Workspace.since_of_append hfetches]
  cases purpose <;> rfl

/-- Lookups fetch for decimals only. -/
theorem since_decimals (mint : Address) (w : Workspace σ) {purpose : Purpose}
    (hp : purpose ≠ .decimals) : w.since ((decimals mint).after source w) purpose = [] := by
  have hfetched (cache : DecimalsCache) :
      w.since (w.fetched source mint cache) purpose = [] := by
    have hfetches : (w.fetched source mint cache).fetches =
        w.fetches ++ [lookupFetch source mint w] := rfl
    rw [Workspace.since_of_append hfetches]
    cases purpose with
    | decimals => exact absurd rfl hp
    | market => rfl
    | live => rfl
  have hrun := lookupDecimals_run source mint w
  change w.since ((lookupDecimals source mint).run w).2 purpose = []
  cases hout : (lookupDecimals source mint).run w with
  | mk result w' =>
    rw [hout] at hrun
    cases hrun with
    | wrappedSol => exact Workspace.since_of_eq rfl purpose
    | cached => exact Workspace.since_of_eq rfl purpose
    | failed => exact hfetched _
    | learned => exact hfetched _

/-- No request of a snapshot is for the market account itself. -/
theorem since_afterAll_market (rs : List Request) (w : Workspace σ) :
    w.since (afterAll source rs w) .market = [] := by
  induction rs generalizing w with
  | nil => exact Workspace.since_of_eq rfl _
  | cons r rs ih =>
    have hone : w.since (r.after source w) .market = [] := by
      cases r with
      | decimals mint => exact since_decimals mint w (by decide)
      | live address => rw [since_live, if_neg (by decide)]
    change w.since (afterAll source rs (r.after source w)) .market = []
    rw [Workspace.since_trans (r.fetches_after w) (fetches_afterAll rs _), hone, ih,
      List.append_nil]

end Request

section Outcomes

variable {source : Source σ}

theorem errorOf?_mapError {ε δ α : Type} (f : ε → δ) (x : Except ε α) :
    errorOf? (x.mapError f) = (errorOf? x).map f := by
  cases x <;> rfl

theorem filterMap_id_cons {α : Type} (x : Option α) (xs : List (Option α)) :
    (x :: xs).filterMap id = x.toList ++ xs.filterMap id := by
  cases x <;> rfl

theorem errorOf?_finishLookup (mint : Address) (answer : Except FetchError Bytes)
    (cache : DecimalsCache) :
    errorOf? (finishLookup mint answer cache).1 = mintFailure? mint answer := by
  cases answer with
  | error e => rfl
  | ok data =>
    simp only [finishLookup, mintFailure?]
    cases decodeMint mint data <;> rfl

theorem errorOf?_lookupDecimals (mint : Address) (w : Workspace σ) :
    errorOf? ((lookupDecimals source mint).run w).1 =
      (Request.decimals mint).failure? source w := by
  change _ = if mint = Address.wrappedSol ∨ (w.cache.get? mint).isSome then none
    else mintFailure? mint (source mint w.source).1
  rw [lookupDecimals_run_eq]
  -- The cases are those of the start of a lookup: wrapped SOL, a known mint, and a fetch.
  by_cases hm : mint = Address.wrappedSol
  · rw [if_pos (Or.inl hm), hm, startLookup_wrappedSol]
    rfl
  rw [startLookup_of_ne hm]
  cases hd : w.cache.get? mint with
  | some d =>
    have hknown : mint = Address.wrappedSol ∨ (some d).isSome = true := .inr rfl
    rw [if_pos hknown]
    rfl
  | none =>
    have hunknown : ¬ (mint = Address.wrappedSol ∨ (none : Option UInt8).isSome = true) := by
      rintro (h | h)
      · exact hm h
      · exact nomatch h
    rw [if_neg hunknown]
    exact errorOf?_finishLookup mint (source mint w.source).1 w.cache

theorem errorOf?_fetchIf (wanted : Bool) (address : Address) (w : Workspace σ) :
    ((fetchIf source wanted address).run w).1.bind errorOf? =
      if wanted then (Request.live address).failure? source w else none := by
  cases wanted with
  | false => rfl
  | true => exact errorOf?_mapError SnapshotError.fetch (source address w.source).1

/-- What is gathered leaves the workspace as the requests do. -/
theorem gather_run_workspace (o : SnapshotOptions) (m : Market) (w : Workspace σ) :
    ((gather source o m).run w).2 = Request.afterAll source (o.requests m.toMarketRecord) w := by
  obtain ⟨orderBooks, eventQueue, decimalsOnly⟩ := o
  cases orderBooks <;> cases eventQueue <;> rfl

/-- The errors of what is gathered are those of the requests that fail. -/
theorem gather_run_errors (o : SnapshotOptions) (m : Market) (w : Workspace σ) :
    ((gather source o m).run w).1.errors =
      Request.failures source (o.requests m.toMarketRecord) w := by
  let base := (lookupDecimals source m.baseMint).run w
  let quote := (lookupDecimals source m.quoteMint).run base.2
  let bids := (fetchIf source o.orderBooks m.bids).run quote.2
  let asks := (fetchIf source o.orderBooks m.asks).run bids.2
  let queue := (fetchIf source o.eventQueue m.eventQueue).run asks.2
  have hrun : ((gather source o m).run w).1 = ⟨base.1, quote.1, bids.1, asks.1, queue.1⟩ := rfl
  rw [hrun]
  unfold Gathered.errors
  -- Each request is judged in the workspace that the ones before it left.
  simp only [filterMap_id_cons, base, quote, bids, asks, queue, errorOf?_lookupDecimals,
    errorOf?_fetchIf]
  obtain ⟨orderBooks, eventQueue, decimalsOnly⟩ := o
  cases orderBooks <;> cases eventQueue <;> rfl

end Outcomes

namespace SnapshotBuilder

/-- The requests of a call that has the bytes of the market account. -/
def requests (b : SnapshotBuilder) (data : Bytes) : List Request :=
  match decodeMarket data with
  | .error _ => []
  | .ok m => if b.options.needsDecimals then b.options.requests m.toMarketRecord else []

/-- The requests of a call, and the workspace in which it begins with them. -/
def plan (source : Source σ) (b : SnapshotBuilder) (w : Workspace σ) :
    List Request × Workspace σ :=
  match (b.marketData source).run w with
  | (.error _, w₁) => ([], w₁)
  | (.ok data, w₁) => (b.requests data, w₁)

variable {source : Source σ} {b : SnapshotBuilder}

variable (source) in
theorem marketData_of_pinned {data : Bytes} (h : b.pinned = some data) (w : Workspace σ) :
    (b.marketData source).run w = (.ok data, w) := by
  unfold marketData
  rw [h]
  rfl

variable (source) in
theorem marketData_of_unpinned (h : b.pinned = none) (w : Workspace σ) :
    (b.marketData source).run w = (Step.ask source .market b.address).run w := by
  unfold marketData
  rw [h]

/-- The bytes of the market account are fetched once if they are not pinned, and nothing else is. -/
theorem since_marketData (w : Workspace σ) (purpose : Purpose) :
    w.since ((b.marketData source).run w).2 purpose =
      if b.pinned = none ∧ purpose = .market then
        [⟨.market, b.address, (source b.address w.source).1⟩] else [] := by
  cases hp : b.pinned with
  | some data =>
    rw [marketData_of_pinned source hp, if_neg (fun h => nomatch h.1)]
    exact Workspace.since_of_eq rfl purpose
  | none =>
    rw [marketData_of_unpinned source hp]
    have hfetches : ((Step.ask source .market b.address).run w).2.fetches =
        w.fetches ++ [⟨.market, b.address, (source b.address w.source).1⟩] := rfl
    rw [Workspace.since_of_append hfetches]
    cases purpose <;> rfl

theorem requests_of_decoded {data : Bytes} {m : Market} (hm : decodeMarket data = .ok m)
    (hn : b.options.needsDecimals = true) :
    b.requests data = b.options.requests m.toMarketRecord := by
  unfold requests
  rw [hm]
  exact if_pos hn

variable (source b) in
/-- Apart from what is logged, a snapshot is put together by its requests alone. -/
theorem assemble_run_workspace (data : Bytes) (w : Workspace σ) :
    ∃ log, ((b.assemble source data).run w).2 =
      { Request.afterAll source (b.requests data) w with log := log } := by
  cases hd : decodeMarket data with
  | error e =>
    refine ⟨w.log, ?_⟩
    unfold assemble requests
    rw [hd]
    rfl
  | ok m =>
    cases hn : b.options.needsDecimals with
    | false =>
      refine ⟨w.log ++ [fixedFieldsBuilt b.address], ?_⟩
      unfold assemble requests
      rw [hd, hn]
      rfl
    | true =>
      obtain ⟨es, hrun⟩ := assemble_run source b w hd hn
      rw [hrun, requests_of_decoded hd hn, ← gather_run_workspace]
      exact ⟨_, rfl⟩

theorem build_of_marketData {w w₁ : Workspace σ} {data : Bytes}
    (h : (b.marketData source).run w = (.ok data, w₁)) :
    ((b.build source).run w).1.1 = ((b.assemble source data).run w₁).1 ∧
      ((b.build source).run w).2 = ((b.assemble source data).run w₁).2 := by
  rw [build_run_eq, h]
  simp only
  rcases (b.assemble source data).run w₁ with ⟨result, w₂⟩
  cases result <;> exact ⟨rfl, rfl⟩

/-- A call that succeeds has put a snapshot together, and pins the bytes that it used. -/
theorem build_ok_uses {b' : SnapshotBuilder} {w w' : Workspace σ} {m : Market}
    (h : (b.build source).run w = ((.ok m, b'), w')) :
    ∃ data w₁, (b.marketData source).run w = (.ok data, w₁) ∧
      (b.assemble source data).run w₁ = (.ok m, w') ∧ b' = { b with pinned := some data } := by
  rcases hdata : (b.marketData source).run w with ⟨fetched, w₁⟩
  cases fetched with
  | error e =>
    rw [build_run_eq, hdata] at h
    exact nomatch congrArg (fun out => out.1.1) h
  | ok data =>
    obtain ⟨hresult, hworkspace⟩ := build_of_marketData hdata
    rw [h] at hresult hworkspace
    have hassemble : (b.assemble source data).run w₁ = (.ok m, w') :=
      Prod.ext hresult.symm hworkspace.symm
    rw [build_run_eq, hdata] at h
    simp only [hassemble] at h
    exact ⟨data, w₁, rfl, hassemble, (congrArg (fun out => out.1.2) h).symm⟩

variable (source b) in
/-- Apart from what is logged, a call does what its requests do. -/
theorem build_run_workspace (w : Workspace σ) :
    ∃ log, ((b.build source).run w).2 =
      { Request.afterAll source (b.plan source w).1 (b.plan source w).2 with log := log } := by
  unfold plan
  rcases hdata : (b.marketData source).run w with ⟨fetched, w₁⟩
  cases fetched with
  | error e =>
    rw [build_run_eq, hdata]
    exact ⟨w₁.log, rfl⟩
  | ok data =>
    rw [(build_of_marketData hdata).2]
    exact b.assemble_run_workspace source data w₁

theorem plan_of_marketData {w w₁ : Workspace σ} {data : Bytes}
    (h : (b.marketData source).run w = (.ok data, w₁)) :
    b.plan source w = (b.requests data, w₁) := by
  unfold plan
  rw [h]

variable (source b) in
theorem plan_workspace (w : Workspace σ) :
    (b.plan source w).2 = ((b.marketData source).run w).2 := by
  unfold plan
  rcases (b.marketData source).run w with ⟨fetched, w₁⟩
  cases fetched <;> rfl

variable (source b) in
/-- The fetches of a call: at first the market account if it is not pinned, then its requests. -/
theorem since_build (w : Workspace σ) (purpose : Purpose) :
    w.since ((b.build source).run w).2 purpose =
      w.since ((b.marketData source).run w).2 purpose ++
        (b.plan source w).2.since
          (Request.afterAll source (b.plan source w).1 (b.plan source w).2) purpose := by
  obtain ⟨log, hlog⟩ := b.build_run_workspace source w
  have hfetches : ((b.build source).run w).2.fetches =
      (Request.afterAll source (b.plan source w).1 (b.plan source w).2).fetches := by rw [hlog]
  have hgrow := (frame_fetches source).marketData b w
  rw [← b.plan_workspace source w] at hgrow ⊢
  rw [Workspace.since_congr hfetches, Workspace.since_trans hgrow (Request.fetches_afterAll _ _)]

end SnapshotBuilder

end SerumDex
