import SerumDex.Proofs.Desk
import SerumDex.Proofs.Requests

namespace SerumDex

/-- Of two steps the first one that fails is the error. -/
theorem errorOf?_bind {ε α β : Type} {x : Except ε α} {f : α → Except ε β}
    {later : Option ε} (h : ∀ a, x = .ok a → errorOf? (f a) = later) :
    errorOf? (x >>= f) = (errorOf? x).or later := by
  cases x with
  | error e => rfl
  | ok a => exact h a rfl

/-- The bytes that came back for the live parts that were wanted. -/
structure Gathered.Brings (g : Gathered) (o : SnapshotOptions) (live : LivePart → Bytes) :
    Prop where
  bids : g.bids.bind valueOf? = if o.orderBooks then some (live .bids) else none
  asks : g.asks.bind valueOf? = if o.orderBooks then some (live .asks) else none
  queue : g.queue.bind valueOf? = if o.eventQueue then some (live .queue) else none

section Attach

variable {m m' : Market}

/-- What `attachBooks` makes of bytes that came back: both books, each of its own account, or, if
none were wanted, nothing. -/
theorem attachBooks_eq_ok {wanted : Bool} {bids asks : Bytes}
    (h : attachBooks m (if wanted then some bids else none) (if wanted then some asks else none) =
      .ok m') :
    (wanted = false ∧ m' = m) ∨
      (wanted = true ∧ ∃ bidBook askBook, decodeOrderBookSide m.bids .bid bids m.scale = .ok bidBook ∧
        decodeOrderBookSide m.asks .ask asks m.scale = .ok askBook ∧
        m' = { m with bidBook := some bidBook, askBook := some askBook }) := by
  cases wanted with
  | false => exact .inl ⟨rfl, (Except.ok.inj h).symm⟩
  | true =>
    obtain ⟨bidBook, hbid, h⟩ := ok_of_bind h
    obtain ⟨askBook, hask, h⟩ := ok_of_bind h
    exact .inr ⟨rfl, bidBook, askBook, ok_of_mapError hbid, ok_of_mapError hask,
      (Except.ok.inj h).symm⟩

theorem attachQueue_eq_ok {wanted : Bool} {data : Bytes}
    (h : attachQueue m (if wanted then some data else none) = .ok m') :
    (wanted = false ∧ m' = m) ∨
      (wanted = true ∧ ∃ queue, decodeEventQueue data m.scale = .ok queue ∧
        m' = { m with decodedQueue := some queue }) := by
  cases wanted with
  | false => exact .inl ⟨rfl, (Except.ok.inj h).symm⟩
  | true =>
    obtain ⟨queue, hqueue, h⟩ := ok_of_bind h
    exact .inr ⟨rfl, queue, ok_of_mapError hqueue, (Except.ok.inj h).symm⟩

theorem errorOf?_attachBooks (m : Market) (wanted : Bool) (live : LivePart → Bytes) :
    errorOf? (attachBooks m (if wanted then some (live .bids) else none)
      (if wanted then some (live .asks) else none)) =
      (if wanted then [LivePart.bids, .asks] else []).findSome? fun p =>
        p.failure? m.toMarketRecord m.scale (live p) := by
  cases wanted with
  | false => rfl
  | true =>
    have hbids : errorOf? (decodeSide m.bids .bid (live .bids) m.scale) =
        LivePart.bids.failure? m.toMarketRecord m.scale (live .bids) := errorOf?_mapError _ _
    have hasks : errorOf? (decodeSide m.asks .ask (live .asks) m.scale) =
        LivePart.asks.failure? m.toMarketRecord m.scale (live .asks) := errorOf?_mapError _ _
    have hboth : errorOf? (attachBooks m (some (live .bids)) (some (live .asks))) =
        (errorOf? (decodeSide m.bids .bid (live .bids) m.scale)).or
          ((errorOf? (decodeSide m.asks .ask (live .asks) m.scale)).or none) := by
      apply errorOf?_bind
      intro bidBook _
      apply errorOf?_bind
      intro askBook _
      rfl
    rw [hbids, hasks] at hboth
    simp only [if_true, hboth, List.findSome?_cons, List.findSome?_nil]
    cases LivePart.bids.failure? m.toMarketRecord m.scale (live .bids) <;>
      cases LivePart.asks.failure? m.toMarketRecord m.scale (live .asks) <;> rfl

theorem errorOf?_attachQueue (m : Market) (wanted : Bool) (live : LivePart → Bytes) :
    errorOf? (attachQueue m (if wanted then some (live .queue) else none)) =
      (if wanted then [LivePart.queue] else []).findSome? fun p =>
        p.failure? m.toMarketRecord m.scale (live p) := by
  cases wanted with
  | false => rfl
  | true =>
    have hqueue : errorOf? (attachQueue m (some (live .queue))) =
        (errorOf? ((decodeEventQueue (live .queue) m.scale).mapError
          (.decode AccountKind.eventQueue.name m.eventQueue))).or none := by
      apply errorOf?_bind
      intro queue _
      rfl
    simp only [if_true, List.findSome?_singleton]
    rw [hqueue, Option.or_none]
    exact errorOf?_mapError _ _

theorem Gathered.attach_of_brings {g : Gathered} {o : SnapshotOptions} {live : LivePart → Bytes}
    (he : g.errors = []) (hl : g.Brings o live) (m : Market) :
    g.attach m =
      attachBooks (g.withDecimals m) (if o.orderBooks then some (live .bids) else none)
        (if o.orderBooks then some (live .asks) else none) >>=
      fun m' => attachQueue m' (if o.eventQueue then some (live .queue) else none) := by
  unfold Gathered.attach
  rw [he, ← hl.bids, ← hl.asks, ← hl.queue]
  rfl

/-- Without a failed request, the error is the first account that does not decode. -/
theorem Gathered.errorOf?_attach {g : Gathered} {o : SnapshotOptions} {live : LivePart → Bytes}
    (he : g.errors = []) (hl : g.Brings o live) (m : Market) :
    errorOf? (g.attach m) = o.parts.findSome? fun p =>
      p.failure? m.toMarketRecord (g.withDecimals m).scale (live p) := by
  rw [Gathered.attach_of_brings he hl, SnapshotOptions.parts, List.findSome?_append]
  -- The queue is decoded with the scale that the books left as it was.
  have hqueue (m' : Market)
      (hm' : attachBooks (g.withDecimals m) (if o.orderBooks then some (live .bids) else none)
        (if o.orderBooks then some (live .asks) else none) = .ok m') :
      errorOf? (attachQueue m' (if o.eventQueue then some (live .queue) else none)) =
        (if o.eventQueue then [LivePart.queue] else []).findSome? fun p =>
          p.failure? m.toMarketRecord (g.withDecimals m).scale (live p) := by
    rw [errorOf?_attachQueue]
    rcases attachBooks_eq_ok hm' with ⟨_, rfl⟩ | ⟨_, bidBook, askBook, _, _, rfl⟩ <;> rfl
  rw [errorOf?_bind hqueue, errorOf?_attachBooks]
  rfl

theorem Gathered.errorOf?_attach_of_decimals {g : Gathered} {o : SnapshotOptions}
    {live : LivePart → Bytes} {base quote : UInt8} (he : g.errors = [])
    (hbase : g.baseDecimals = .ok base) (hquote : g.quoteDecimals = .ok quote)
    (hl : g.Brings o live) :
    errorOf? (g.attach m) = o.parts.findSome? fun p =>
      p.failure? m.toMarketRecord ⟨base, quote, m.baseLotSize, m.quoteLotSize⟩ (live p) := by
  have hscale : (g.withDecimals m).scale = ⟨base, quote, m.baseLotSize, m.quoteLotSize⟩ := by
    simp only [Gathered.withDecimals, Market.scale, hbase, hquote, valueOf?, Option.getD_some]
  rw [Gathered.errorOf?_attach he hl, hscale]

theorem Gathered.attach_of_errors {g : Gathered} {e : SnapshotError}
    (h : SnapshotError.ofList? g.errors = some e) (m : Market) : g.attach m = .error e := by
  unfold Gathered.attach
  rw [h]

/-- Failed requests are reported, all of them and in their order. -/
theorem Gathered.attach_of_failed {g : Gathered} {failed : List SnapshotError}
    (h : g.errors = failed) (m : Market) :
    (∀ e, failed = [e] → g.attach m = .error e) ∧
      (2 ≤ failed.length → g.attach m = .error (.aggregate failed)) := by
  constructor
  · intro e he
    apply Gathered.attach_of_errors
    rw [h, he]
    rfl
  · intro hlen
    apply Gathered.attach_of_errors
    rw [h]
    match failed, hlen with
    | _ :: _ :: _, _ => rfl

theorem Gathered.errors_of_attach_ok {g : Gathered} {m m' : Market} (h : g.attach m = .ok m') :
    g.errors = [] := by
  apply SnapshotError.ofList?_eq_none_iff.mp
  cases he : SnapshotError.ofList? g.errors with
  | none => rfl
  | some e => exact nomatch h.symm.trans (Gathered.attach_of_errors he m)

end Attach

variable {σ : Type} {source : Source σ}

theorem fetchIf_brings {wanted : Bool} {address : Address} {w : Workspace σ}
    (h : ((fetchIf source wanted address).run w).1.bind errorOf? = none) :
    ∃ data, ((fetchIf source wanted address).run w).1.bind valueOf? =
        (if wanted then some data else none) ∧
      w.since ((fetchIf source wanted address).run w).2 .live =
        if wanted then [⟨.live, address, .ok data⟩] else [] := by
  cases wanted with
  | false => exact ⟨[], rfl, Workspace.since_of_eq rfl _⟩
  | true =>
    have hrun : (fetchIf source true address).run w =
        (some ((source address w.source).1.mapError .fetch),
          (Request.live address).after source w) := rfl
    rw [hrun] at h ⊢
    cases ha : (source address w.source).1 with
    | error e =>
      rw [ha] at h
      exact nomatch h
    | ok data =>
      refine ⟨data, rfl, ?_⟩
      rw [Request.since_live, ha]
      rfl

/-- If no request failed, each wanted account has come back, and those are all that were fetched for
the live parts. -/
theorem gather_brings {o : SnapshotOptions} {m : Market} {w : Workspace σ}
    (h : ((gather source o m).run w).1.errors = []) :
    ∃ live : LivePart → Bytes, ((gather source o m).run w).1.Brings o live ∧
      w.since ((gather source o m).run w).2 .live =
        o.parts.map fun p => ⟨.live, p.address m.toMarketRecord, .ok (live p)⟩ := by
  have hf := frame_fetches source
  let base := (lookupDecimals source m.baseMint).run w
  let quote := (lookupDecimals source m.quoteMint).run base.2
  let bids := (fetchIf source o.orderBooks m.bids).run quote.2
  let asks := (fetchIf source o.orderBooks m.asks).run bids.2
  let queue := (fetchIf source o.eventQueue m.eventQueue).run asks.2
  have hrun : (gather source o m).run w =
      (⟨base.1, quote.1, bids.1, asks.1, queue.1⟩, queue.2) := rfl
  rw [hrun] at h ⊢
  -- No error is left by any of the five, and so each fetch of a wanted part has brought its bytes.
  have hnone := List.filterMap_eq_nil_iff.mp h
  obtain ⟨bidData, hbids, hbidFetch⟩ : ∃ data, bids.1.bind valueOf? = _ ∧ _ :=
    fetchIf_brings (hnone (bids.1.bind errorOf?) (by simp))
  obtain ⟨askData, hasks, haskFetch⟩ : ∃ data, asks.1.bind valueOf? = _ ∧ _ :=
    fetchIf_brings (hnone (asks.1.bind errorOf?) (by simp))
  obtain ⟨queueData, hqueue, hqueueFetch⟩ : ∃ data, queue.1.bind valueOf? = _ ∧ _ :=
    fetchIf_brings (hnone (queue.1.bind errorOf?) (by simp))
  refine ⟨LivePart.choose bidData askData queueData, ⟨hbids, hasks, hqueue⟩, ?_⟩
  -- The lookups come first and fetch nothing for the live parts.
  have hlookups : w.since quote.2 .live = [] := by
    rw [Workspace.since_trans (hf.lookup m.baseMint w) (hf.lookup m.quoteMint base.2)]
    have hb : w.since base.2 .live = [] := Request.since_decimals m.baseMint w (by decide)
    have hq : base.2.since quote.2 .live = [] :=
      Request.since_decimals m.quoteMint base.2 (by decide)
    rw [hb, hq, List.append_nil]
  have hbidGrow : quote.2.fetches <+: bids.2.fetches := hf.fetchIf o.orderBooks m.bids quote.2
  have haskGrow : bids.2.fetches <+: asks.2.fetches := hf.fetchIf o.orderBooks m.asks bids.2
  have hqueueGrow : asks.2.fetches <+: queue.2.fetches :=
    hf.fetchIf o.eventQueue m.eventQueue asks.2
  have hlookupGrow : w.fetches <+: quote.2.fetches :=
    (hf.lookup m.baseMint w).trans (hf.lookup m.quoteMint base.2)
  rw [Workspace.since_trans (hlookupGrow.trans (hbidGrow.trans haskGrow)) hqueueGrow,
    Workspace.since_trans (hlookupGrow.trans hbidGrow) haskGrow,
    Workspace.since_trans hlookupGrow hbidGrow, hlookups, hbidFetch, haskFetch, hqueueFetch]
  obtain ⟨orderBooks, eventQueue, decimalsOnly⟩ := o
  cases orderBooks <;> cases eventQueue <;> rfl

/-- A call that wants any part of a market that decodes does what its requests brought. -/
theorem build_of_gather {b : SnapshotBuilder} {w w₁ : Workspace σ} {data : Bytes} {m : Market}
    (hdata : (b.marketData source).run w = (.ok data, w₁)) (hm : decodeMarket data = .ok m)
    (hn : b.options.needsDecimals = true) :
    ((b.build source).run w).1.1 = ((gather source b.options m).run w₁).1.attach m ∧
      ((b.build source).run w).2.cache = ((gather source b.options m).run w₁).2.cache := by
  obtain ⟨hresult, hworkspace⟩ := SnapshotBuilder.build_of_marketData hdata
  obtain ⟨es, hassemble⟩ := assemble_run source b w₁ hm hn
  rw [hresult, hworkspace, hassemble]
  exact ⟨rfl, rfl⟩

/-- What is fetched for live parts is fetched by the requests: the market account, if it is fetched,
is not one of them. -/
theorem since_build_live {b : SnapshotBuilder} {w w₁ : Workspace σ} {data : Bytes}
    (hdata : (b.marketData source).run w = (.ok data, w₁)) :
    w.since ((b.build source).run w).2 .live =
      w₁.since (Request.afterAll source (b.requests data) w₁) .live := by
  have hmarket : w.since ((b.marketData source).run w).2 .live = [] := by
    rw [SnapshotBuilder.since_marketData, if_neg (fun h => nomatch h.2)]
  rw [SnapshotBuilder.since_build, hmarket, List.nil_append,
    SnapshotBuilder.plan_of_marketData hdata]

section DecodeErrors

/-- A request fails with what it was for, and never because an account of the market does not
decode. -/
theorem Request.not_decode_of_failure {r : Request} {w : Workspace σ} {e : SnapshotError}
    (h : r.failure? source w = some e) (account : String) (address : Address)
    (cause : DecodeError) : e ≠ .decode account address cause := by
  cases r with
  | live a =>
    obtain ⟨fetchError, _, rfl⟩ := Option.map_eq_some_iff.mp h
    exact SnapshotError.noConfusion
  | decimals mint =>
    change (if mint = Address.wrappedSol ∨ (w.cache.get? mint).isSome then none
      else mintFailure? mint (source mint w.source).1) = some e at h
    split at h
    · exact nomatch h
    · cases ha : (source mint w.source).1 with
      | error fetchError =>
        rw [ha] at h
        rw [← Option.some.inj h]
        exact SnapshotError.noConfusion
      | ok data =>
        rw [ha] at h
        obtain ⟨decodeError, _, rfl⟩ := Option.map_eq_some_iff.mp h
        exact SnapshotError.noConfusion

theorem Request.not_decode_of_mem_failures {rs : List Request} {w : Workspace σ}
    {e : SnapshotError} (h : e ∈ Request.failures source rs w) (account : String)
    (address : Address) (cause : DecodeError) : e ≠ .decode account address cause := by
  induction rs generalizing w with
  | nil => exact nomatch h
  | cons r rs ih =>
    rcases List.mem_append.mp h with hone | hlater
    · exact Request.not_decode_of_failure (Option.mem_toList.mp hone) account address cause
    · exact ih hlater

/-- An error of a call that an account does not decode is about one of the parts that it wanted. -/
theorem part_of_decode_error {b : SnapshotBuilder} {w w₁ : Workspace σ} {data : Bytes} {m : Market}
    (hdata : (b.marketData source).run w = (.ok data, w₁)) (hm : decodeMarket data = .ok m)
    {account : String} {address : Address} {cause : DecodeError}
    (h : ((b.build source).run w).1.1 = .error (.decode account address cause)) :
    ∃ p ∈ b.options.parts, account = p.name ∧ address = p.address m.toMarketRecord := by
  cases hn : b.options.needsDecimals with
  | false =>
    rw [(SnapshotBuilder.build_of_marketData hdata).1] at h
    unfold SnapshotBuilder.assemble at h
    rw [hm, hn] at h
    exact nomatch h
  | true =>
    have hattach := (build_of_gather hdata hm hn).1
    rw [h] at hattach
    have herrors : ((gather source b.options m).run w₁).1.errors =
        Request.failures source (b.options.requests m.toMarketRecord) w₁ :=
      gather_run_errors b.options m w₁
    -- The parts are decoded only if every request has succeeded.
    cases he : SnapshotError.ofList? ((gather source b.options m).run w₁).1.errors with
    | some e =>
      rw [Gathered.attach_of_errors he] at hattach
      obtain rfl := Except.error.inj hattach
      rcases SnapshotError.ofList?_eq_some he with hone | hmany
      · rw [herrors] at hone
        have hmem : SnapshotError.decode account address cause ∈
            Request.failures source (b.options.requests m.toMarketRecord) w₁ := by
          rw [hone]
          exact List.mem_singleton_self _
        exact absurd rfl (Request.not_decode_of_mem_failures hmem account address cause)
      · exact nomatch hmany
    | none =>
      have hnone := SnapshotError.ofList?_eq_none_iff.mp he
      obtain ⟨live, hbrings, _⟩ := gather_brings hnone
      have hfirst := Gathered.errorOf?_attach hnone hbrings m
      rw [← hattach] at hfirst
      obtain ⟨p, hp, hfailure⟩ := List.exists_of_findSome?_eq_some hfirst.symm
      obtain ⟨defect, _, hdecode⟩ := Option.map_eq_some_iff.mp hfailure
      injection hdecode with haccount haddress _
      exact ⟨p, hp, haccount.symm, haddress.symm⟩

end DecodeErrors

/-- No failed request is dropped, and their order is fixed: one is the error itself, several are
aggregated. With none, the bytes that came back for the wanted parts decide, read with the decimals
that were found: the first part that does not decode is the error, and otherwise there is none. -/
theorem build_error_of_failures {b : SnapshotBuilder} {w w₁ : Workspace σ} {data : Bytes}
    {m : Market} (hdata : (b.marketData source).run w = (.ok data, w₁))
    (hm : decodeMarket data = .ok m) (hn : b.options.needsDecimals = true) :
    let failed := Request.failures source (b.options.requests m.toMarketRecord) w₁
    let result := ((b.build source).run w).1.1
    let w' := ((b.build source).run w).2
    (∀ e, failed = [e] → result = .error e) ∧
    (2 ≤ failed.length → result = .error (.aggregate failed)) ∧
    (failed = [] → ∃ (live : LivePart → Bytes) (base quote : UInt8),
      w.since w' .live =
        b.options.parts.map (fun p => ⟨.live, p.address m.toMarketRecord, .ok (live p)⟩) ∧
      w'.cache.get? m.baseMint = some base ∧ w'.cache.get? m.quoteMint = some quote ∧
      errorOf? result = b.options.parts.findSome? fun p =>
        p.failure? m.toMarketRecord ⟨base, quote, m.baseLotSize, m.quoteLotSize⟩ (live p)) := by
  intro failed result w'
  obtain ⟨hresult, hcache⟩ := build_of_gather hdata hm hn
  have herrors : ((gather source b.options m).run w₁).1.errors = failed :=
    gather_run_errors b.options m w₁
  have hreported := Gathered.attach_of_failed herrors m
  rw [← hresult] at hreported
  refine ⟨hreported.1, hreported.2, ?_⟩
  intro hnone
  rw [hnone] at herrors
  obtain ⟨base, quote, hbase, hquote⟩ := Gathered.decimals_of_errors herrors
  obtain ⟨live, hbrings, hlive⟩ := gather_brings herrors
  refine ⟨live, base, quote, ?_, ?_, ?_, ?_⟩
  · rw [since_build_live hdata, SnapshotBuilder.requests_of_decoded hm hn, ← gather_run_workspace,
      hlive]
  · rw [hcache]
    exact (gather_decimals b.options m w₁ base).1 hbase
  · rw [hcache]
    exact (gather_decimals b.options m w₁ quote).2 hquote
  · rw [show result = _ from hresult]
    exact Gathered.errorOf?_attach_of_decimals herrors hbase hquote hbrings

/-- The sample accounts without the mint of the quote token. -/
def sparseSource : Source UInt8 := fun address decimals =>
  if address = sampleRecord.quoteMint then (.error (.notFound address), decimals)
  else sampleSource address decimals

/-- Two of five requests fail: the lookup of the quote mint, and the fetch of the queue. -/
theorem build_error_of_sparse :
    (((sampleBuilder ⟨true, true, false⟩).build sparseSource).run sampleWorkspace).1.1 =
      .error (.aggregate [
        .lookup sampleRecord.quoteMint (FetchError.notFound sampleRecord.quoteMint).message,
        .fetch (.notFound sampleRecord.eventQueue)]) := by
  have hdata := SnapshotBuilder.marketData_of_pinned sparseSource
    (b := sampleBuilder ⟨true, true, false⟩) rfl sampleWorkspace
  have hfailed : Request.failures sparseSource
      (SnapshotOptions.requests ⟨true, true, false⟩ sampleRecord) sampleWorkspace =
        [.lookup sampleRecord.quoteMint (FetchError.notFound sampleRecord.quoteMint).message,
          .fetch (.notFound sampleRecord.eventQueue)] := rfl
  have hlen : 2 ≤ (Request.failures sparseSource
      (SnapshotOptions.requests ⟨true, true, false⟩ sampleRecord) sampleWorkspace).length := by
    rw [hfailed]
    exact Nat.le_refl 2
  rw [← hfailed]
  exact (build_error_of_failures hdata decodeMarket_sampleAccount rfl).2.1 hlen

end SerumDex
