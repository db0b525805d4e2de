import SerumDex.Proofs.Itinerary

namespace SerumDex

variable {σ τ : Type} {source : Source σ} {source' : Source τ}
  {answer answer' : Address → Except FetchError Bytes}

namespace Lookup

variable {mint : Address} {w : Workspace σ} {out : Except SnapshotError UInt8 × Workspace σ}

theorem trace_eq (h : Lookup source mint w out) :
    out.2.trace = w.trace ++ if w.cache.Lacks mint then [mint] else [] := by
  have hfetched (cache : DecimalsCache) : (w.fetched source mint cache).trace = w.trace ++ [mint] :=
    List.map_append
  cases h with
  | wrappedSol hm =>
    have hknown : ¬ w.cache.Lacks mint := fun h => h.1 hm
    rw [if_neg hknown, List.append_nil]
    rfl
  | cached hm d hd =>
    have hknown : ¬ w.cache.Lacks mint := fun h => nomatch hd.symm.trans h.2
    rw [if_neg hknown, List.append_nil]
    rfl
  | failed hm hn =>
    rw [if_pos ⟨hm, hn⟩]
    exact hfetched _
  | learned hm hn =>
    rw [if_pos ⟨hm, hn⟩]
    exact hfetched _

/-- A lookup leaves every other mint as it was, and its own mint is known afterwards if it came. -/
theorem lacks_iff (h : Lookup source mint w out) (other : Address) :
    out.2.cache.Lacks other ↔ w.cache.Lacks other ∧
      ¬ (other = mint ∧ (lookupFetch source mint w).decimals?.isSome = true) := by
  cases h with
  | wrappedSol hm =>
    have hget : other ≠ Address.wrappedSol →
        (w.cache.insert mint wrappedSolDecimals).2.get? other = w.cache.get? other := by
      intro hother
      rw [DecimalsCache.get?_insert, if_neg (fun h => hother (h.trans hm))]
    constructor
    · rintro ⟨hother, hn⟩
      exact ⟨⟨hother, (hget hother).symm.trans hn⟩, fun h => hother (h.1.trans hm)⟩
    · rintro ⟨⟨hother, hn⟩, _⟩
      exact ⟨hother, (hget hother).trans hn⟩
  | cached hm d hd =>
    refine ⟨fun h => ⟨h, ?_⟩, And.left⟩
    rintro ⟨rfl, _⟩
    exact nomatch hd.symm.trans h.2
  | failed hm hn hf =>
    refine ⟨fun h => ⟨h, ?_⟩, And.left⟩
    rintro ⟨_, hsome⟩
    rw [hf] at hsome
    exact nomatch hsome
  | learned hm hn d hf =>
    have hget : (w.fetched source mint ⟨w.cache.entries ++ [(mint, d)]⟩).cache.get? other =
        if other = mint then some d else w.cache.get? other := by
      have hinsert := w.cache.get?_insert mint other d
      rwa [DecimalsCache.insert_of_none hn] at hinsert
    have hbrought : (lookupFetch source mint w).decimals?.isSome = true := by rw [hf]; rfl
    by_cases h : other = mint
    · -- The mint itself is known from now on.
      rw [if_pos h] at hget
      exact iff_of_false (fun hl => nomatch hget.symm.trans hl.2) fun hl => hl.2 ⟨h, hbrought⟩
    · rw [if_neg h] at hget
      unfold DecimalsCache.Lacks
      rw [hget]
      exact ⟨fun hl => ⟨hl, fun hb => h hb.1⟩, And.left⟩

end Lookup

/-- Two workspaces that know the same decimals, over sources with some answers. -/
structure Alike (source : Source σ) (answer : Address → Except FetchError Bytes)
    (source' : Source τ) (answer' : Address → Except FetchError Bytes) (w : Workspace σ)
    (w' : Workspace τ) : Prop where
  cache : w'.cache = w.cache
  answers : Answers source w.source answer
  answers' : Answers source' w'.source answer'

namespace Alike

variable {w : Workspace σ} {w' : Workspace τ} (h : Alike source answer source' answer' w w')
include h

/-- Only an unknown mint is asked for, so nothing hangs on the answer for another one. -/
theorem lookup (mint : Address) (hagree : w.cache.Lacks mint → answer' mint = answer mint) :
    ((lookupDecimals source' mint).run w').1 = ((lookupDecimals source mint).run w).1 ∧
      Alike source answer source' answer' ((lookupDecimals source mint).run w).2
        ((lookupDecimals source' mint).run w').2 := by
  have hsame : ((lookupDecimals source' mint).run w').1 = ((lookupDecimals source mint).run w).1 ∧
      ((lookupDecimals source' mint).run w').2.cache =
        ((lookupDecimals source mint).run w).2.cache := by
    rw [lookupDecimals_run_eq, lookupDecimals_run_eq, h.cache]
    by_cases hm : mint = Address.wrappedSol
    · rw [hm, startLookup_wrappedSol]
      exact ⟨rfl, rfl⟩
    rw [startLookup_of_ne hm]
    cases hd : w.cache.get? mint with
    | some d => exact ⟨rfl, rfl⟩
    | none =>
      rw [h.answers'.now, h.answers.now, hagree ⟨hm, hd⟩]
      exact ⟨rfl, rfl⟩
  exact ⟨hsame.1, hsame.2, (frame_answers source answer).lookup mint w h.answers,
    (frame_answers source' answer').lookup mint w' h.answers'⟩

theorem fetchIf (wanted : Bool) (address : Address)
    (hagree : wanted = true → answer' address = answer address) :
    ((fetchIf source' wanted address).run w').1 = ((fetchIf source wanted address).run w).1 ∧
      Alike source answer source' answer' ((fetchIf source wanted address).run w).2
        ((fetchIf source' wanted address).run w').2 := by
  cases wanted with
  | false => exact ⟨rfl, h⟩
  | true =>
    refine ⟨?_, h.cache, h.answers.next address, h.answers'.next address⟩
    change some ((source' address w'.source).1.mapError SnapshotError.fetch) =
      some ((source address w.source).1.mapError SnapshotError.fetch)
    rw [h.answers'.now, h.answers.now, hagree rfl]

theorem gather {o : SnapshotOptions} {m : Market}
    (hagree : ∀ a ∈ m.stops o w.cache answer, answer' a = answer a) :
    ((gather source' o m).run w').1 = ((gather source o m).run w).1 ∧
      Alike source answer source' answer' ((gather source o m).run w).2
        ((gather source' o m).run w').2 := by
  let base := (lookupDecimals source m.baseMint).run w
  let quote := (lookupDecimals source m.quoteMint).run base.2
  let bids := (SerumDex.fetchIf source o.orderBooks m.bids).run quote.2
  let asks := (SerumDex.fetchIf source o.orderBooks m.asks).run bids.2
  let queue := (SerumDex.fetchIf source o.eventQueue m.eventQueue).run asks.2
  have hrun : (SerumDex.gather source o m).run w =
      (⟨base.1, quote.1, bids.1, asks.1, queue.1⟩, queue.2) := rfl
  -- The second lookup finds the cache that the first one left.
  have hbaseMint : w.cache.Lacks m.baseMint → answer' m.baseMint = answer m.baseMint :=
    fun hlacks => hagree _ (base_mem_stops hlacks)
  have hquoteMint : base.2.cache.Lacks m.quoteMint → answer' m.quoteMint = answer m.quoteMint := by
    intro hlacks
    obtain ⟨hlacks, hnew⟩ := ((lookupDecimals_run source m.baseMint w).lacks_iff _).mp hlacks
    rw [lookupFetch, h.answers.now] at hnew
    exact hagree _ (quote_mem_stops hlacks hnew)
  have hpart (p : LivePart) (hp : o.wants p = true) :
      answer' (p.address m.toMarketRecord) = answer (p.address m.toMarketRecord) :=
    hagree _ (part_mem_stops hp)
  obtain ⟨hbase, h₁⟩ := h.lookup m.baseMint hbaseMint
  obtain ⟨hquote, h₂⟩ := h₁.lookup m.quoteMint hquoteMint
  obtain ⟨hbids, h₃⟩ := h₂.fetchIf o.orderBooks m.bids (hpart .bids)
  obtain ⟨hasks, h₄⟩ := h₃.fetchIf o.orderBooks m.asks (hpart .asks)
  obtain ⟨hqueue, h₅⟩ := h₄.fetchIf o.eventQueue m.eventQueue (hpart .queue)
  refine ⟨?_, h₅⟩
  rw [hrun, ← hbase, ← hquote, ← hbids, ← hasks, ← hqueue]
  rfl

theorem assemble (b : SnapshotBuilder) (data : Bytes)
    (hagree : ∀ m, decodeMarket data = .ok m → b.options.needsDecimals = true →
      ∀ a ∈ m.stops b.options w.cache answer, answer' a = answer a) :
    ((b.assemble source' data).run w').1 = ((b.assemble source data).run w).1 ∧
      ((b.assemble source' data).run w').2.cache = ((b.assemble source data).run w).2.cache := by
  cases hm : decodeMarket data with
  | error e =>
    unfold SnapshotBuilder.assemble
    rw [hm]
    exact ⟨rfl, h.cache⟩
  | ok m =>
    cases hn : b.options.needsDecimals with
    | false =>
      unfold SnapshotBuilder.assemble
      rw [hm, hn]
      exact ⟨rfl, h.cache⟩
    | true =>
      obtain ⟨es, hrun⟩ := assemble_run source b w hm hn
      obtain ⟨es', hrun'⟩ := assemble_run source' b w' hm hn
      obtain ⟨hgathered, hafter⟩ := h.gather (hagree m hm hn)
      rw [hrun, hrun', hgathered]
      exact ⟨rfl, hafter.cache⟩

theorem marketData (b : SnapshotBuilder)
    (hagree : b.pinned = none → answer' b.address = answer b.address) :
    ((b.marketData source').run w').1 = ((b.marketData source).run w).1 ∧
      Alike source answer source' answer' ((b.marketData source).run w).2
        ((b.marketData source').run w').2 := by
  cases hp : b.pinned with
  | some data =>
    rw [SnapshotBuilder.marketData_of_pinned source hp,
      SnapshotBuilder.marketData_of_pinned source' hp]
    exact ⟨rfl, h⟩
  | none =>
    rw [SnapshotBuilder.marketData_of_unpinned source hp,
      SnapshotBuilder.marketData_of_unpinned source' hp]
    refine ⟨?_, h.cache, h.answers.next _, h.answers'.next _⟩
    change (source' b.address w'.source).1 = (source b.address w.source).1
    rw [h.answers'.now, h.answers.now, hagree hp]

end Alike

section Account

variable {w : Workspace σ} {b : SnapshotBuilder}

/-- What a call has when it turns to its requests. -/
theorem marketData_run (hs : Answers source w.source answer) (b : SnapshotBuilder) :
    ∃ w₁, (b.marketData source).run w = (b.account answer, w₁) ∧ w₁.cache = w.cache ∧
      w₁.trace = w.trace ++ (if b.pinned = none then [b.address] else []) ∧
      Answers source w₁.source answer := by
  unfold SnapshotBuilder.account
  cases hp : b.pinned with
  | some data =>
    refine ⟨w, b.marketData_of_pinned source hp w, rfl, ?_, hs⟩
    exact (List.append_nil _).symm
  | none =>
    refine ⟨((Step.ask source .market b.address).run w).2, ?_, rfl, List.map_append,
      hs.next b.address⟩
    rw [b.marketData_of_unpinned source hp, ← hs.now]
    rfl

theorem requested?_of_account {data : Bytes} (h : b.account answer = .ok data) :
    b.requested? answer =
      if b.options.needsDecimals then valueOf? (decodeMarket data) else none := by
  unfold SnapshotBuilder.requested?
  rw [h]
  rfl

theorem requests_of_account {data : Bytes} (h : b.account answer = .ok data) :
    b.requests data = (b.requested? answer).elim [] fun m => b.options.requests m.toMarketRecord := by
  rw [requested?_of_account h]
  unfold SnapshotBuilder.requests
  cases decodeMarket data <;> cases b.options.needsDecimals <;> rfl

end Account

section Traces

variable {w : Workspace σ}

theorem trace_afterAll_live (parts : List Address) (w : Workspace σ) :
    (Request.afterAll source (parts.map .live) w).trace = w.trace ++ parts := by
  induction parts generalizing w with
  | nil => exact (List.append_nil _).symm
  | cons a parts ih =>
    have hone : ((Request.live a).after source w).trace = w.trace ++ [a] := List.map_append
    change (Request.afterAll source (parts.map .live) ((Request.live a).after source w)).trace = _
    rw [ih, hone, List.append_assoc, List.singleton_append]

theorem trace_requests (hs : Answers source w.source answer) (o : SnapshotOptions)
    (m : MarketRecord) :
    (Request.afterAll source (o.requests m) w).trace = w.trace ++ m.stops o w.cache answer := by
  let base := (lookupDecimals source m.baseMint).run w
  let quote := (lookupDecimals source m.quoteMint).run base.2
  have hbase := lookupDecimals_run source m.baseMint w
  have hquote := lookupDecimals_run source m.quoteMint base.2
  -- The quote mint is looked up in the cache that the base mint has been entered in.
  have hlacks : base.2.cache.Lacks m.quoteMint ↔ w.cache.Lacks m.quoteMint ∧
      ¬ (m.quoteMint = m.baseMint ∧ bringsMint answer m.baseMint = true) := by
    rw [bringsMint, ← hs.now m.baseMint]
    exact hbase.lacks_iff m.quoteMint
  have hparts : Request.afterAll source (o.requests m) w = Request.afterAll source
      ((o.parts.map fun p => p.address m).map .live) quote.2 := by
    rw [List.map_map]
    rfl
  rw [hparts, trace_afterAll_live, show quote.2.trace = _ from hquote.trace_eq,
    show base.2.trace = _ from hbase.trace_eq]
  simp only [MarketRecord.stops, List.append_assoc, hlacks]

variable (b : SnapshotBuilder)

theorem trace_build (hs : Answers source w.source answer) :
    ((b.build source).run w).2.trace = w.trace ++ b.itinerary w.cache answer := by
  obtain ⟨log, hlog⟩ := b.build_run_workspace source w
  obtain ⟨w₁, hdata, hcache, htrace, hs₁⟩ := marketData_run hs b
  have hafter : ((b.build source).run w).2.trace =
      (Request.afterAll source (b.plan source w).1 (b.plan source w).2).trace := by
    rw [hlog]
    rfl
  rw [hafter, SnapshotBuilder.itinerary, ← List.append_assoc, ← htrace, ← hcache]
  cases haccount : b.account answer with
  | error e =>
    rw [haccount] at hdata
    have hplan : b.plan source w = ([], w₁) := by
      unfold SnapshotBuilder.plan
      rw [hdata]
    have hnone : b.requested? answer = none := by
      unfold SnapshotBuilder.requested?
      rw [haccount]
      exact ite_self none
    rw [hplan, hnone]
    exact (List.append_nil _).symm
  | ok data =>
    rw [haccount] at hdata
    rw [SnapshotBuilder.plan_of_marketData hdata, requests_of_account haccount]
    cases b.requested? answer with
    | none => exact (List.append_nil _).symm
    | some m => exact trace_requests hs₁ b.options m.toMarketRecord

theorem Alike.build {w' : Workspace τ} (h : Alike source answer source' answer' w w')
    (hagree : ∀ a ∈ b.itinerary w.cache answer, answer' a = answer a) :
    ((b.build source').run w').1 = ((b.build source).run w).1 ∧
      ((b.build source').run w').2.cache = ((b.build source).run w).2.cache := by
  obtain ⟨hsame, h₁⟩ := h.marketData b fun hp => hagree _ (address_mem_itinerary hp)
  obtain ⟨w₁, hdata, hcache, _, _⟩ := marketData_run h.answers b
  rcases hdata' : (b.marketData source').run w' with ⟨fetched, w₁'⟩
  rw [hdata, hdata'] at hsame h₁
  cases hfetched : b.account answer with
  | error e =>
    rw [hfetched] at hdata hsame
    rw [build_run_eq, build_run_eq, hdata, hdata', show fetched = .error e from hsame]
    exact ⟨rfl, h₁.cache⟩
  | ok data =>
    rw [hfetched] at hdata hsame
    rw [show fetched = .ok data from hsame] at hdata'
    rw [SnapshotBuilder.build_of_marketData_eq hdata, SnapshotBuilder.build_of_marketData_eq hdata']
    have hstops : ∀ m, decodeMarket data = .ok m → b.options.needsDecimals = true →
        ∀ a ∈ m.stops b.options w₁.cache answer, answer' a = answer a := by
      intro m hm hn a ha
      rw [hcache] at ha
      have hrequested : b.requested? answer = some m := by
        rw [requested?_of_account hfetched, if_pos hn, hm]
        rfl
      exact hagree a (mem_itinerary_of_stops hrequested ha)
    obtain ⟨hresult, hafter⟩ := h₁.assemble b data hstops
    refine ⟨?_, hafter⟩
    rw [hresult]

end Traces

/-- If the source answers by address, a call fetches the accounts of its itinerary, in this order.
Requests that fail take nothing away: with the same market account and otherwise the same answers or
failures, the call still fetches all of these, in this order. Accounts off the itinerary have no say:
any source that gives the same answers on it, over the same decimals, leads to the same result, the
same cache and the same fetches. -/
theorem build_follows_itinerary (b : SnapshotBuilder) {w : Workspace σ}
    (hs : Answers source w.source answer) :
    ((b.build source).run w).2.trace = w.trace ++ b.itinerary w.cache answer ∧
    (∀ answer', (b.pinned = none → answer' b.address = answer b.address) →
      (∀ a, answer' a = answer a ∨ bringsMint answer' a = false) →
      (b.itinerary w.cache answer).Sublist (b.itinerary w.cache answer')) ∧
    ∀ {τ : Type} (source' : Source τ) (w' : Workspace τ) (answer' : Address → Except FetchError Bytes),
      Answers source' w'.source answer' → w'.cache = w.cache →
      (∀ a ∈ b.itinerary w.cache answer, answer' a = answer a) →
      ((b.build source').run w').1 = ((b.build source).run w).1 ∧
        ((b.build source').run w').2.cache = ((b.build source).run w).2.cache ∧
        ((b.build source').run w').2.trace = w'.trace ++ b.itinerary w.cache answer := by
  refine ⟨trace_build b hs, fun _ => itinerary_sublist, ?_⟩
  intro τ source' w' answer' hs' hcache hagree
  obtain ⟨hresult, hafter⟩ := Alike.build b ⟨hcache, hs, hs'⟩ hagree
  refine ⟨hresult, hafter, ?_⟩
  rw [trace_build b hs', hcache, itinerary_congr hagree]

section Twins

/-- A market whose two mints are one, with books, and with a given account for its mint. -/
def twinAnswers (mint : Bytes) (a : Address) : Except FetchError Bytes :=
  if a = twinRecord.ownAddress then .ok (writtenHead 3 ++ MarketRecord.layout.write twinRecord)
  else if a = twinRecord.baseMint then .ok mint
  else (sampleSource a 6).1

/-- A source that is its answers. -/
def fixedSource (answer : Address → Except FetchError Bytes) : Source Unit :=
  fun address s => (answer address, s)

theorem answers_fixedSource (answer : Address → Except FetchError Bytes) :
    Answers (fixedSource answer) () answer := (steady_of_unchanging (fun _ _ => rfl) ()).answers

/-- The one mint is fetched once, or twice if it does not come at first, and whatever stands at the
address of the queue, which is not wanted, changes nothing. -/
theorem build_follows_itinerary_of_twins :
    let b : SnapshotBuilder := ⟨twinRecord.ownAddress, ⟨true, false, false⟩, none⟩
    let run (answer : Address → Except FetchError Bytes) :=
      (b.build (fixedSource answer)).run ⟨(), .empty, [], []⟩
    (run (twinAnswers (sampleMint 6))).2.trace =
      [twinRecord.ownAddress, twinRecord.baseMint, twinRecord.bids, twinRecord.asks] ∧
    (run (twinAnswers [])).2.trace =
      [twinRecord.ownAddress, twinRecord.baseMint, twinRecord.baseMint, twinRecord.bids,
        twinRecord.asks] ∧
    ∀ data, (run (Function.update (twinAnswers (sampleMint 6)) twinRecord.eventQueue (.ok data))).1 =
      (run (twinAnswers (sampleMint 6))).1 := by
  intro b run
  have hgood : b.itinerary .empty (twinAnswers (sampleMint 6)) =
      [twinRecord.ownAddress, twinRecord.baseMint, twinRecord.bids, twinRecord.asks] := by
    decide +kernel
  have hbad : b.itinerary .empty (twinAnswers []) =
      [twinRecord.ownAddress, twinRecord.baseMint, twinRecord.baseMint, twinRecord.bids,
        twinRecord.asks] := by
    decide +kernel
  have hfar : ∀ a ∈ [twinRecord.ownAddress, twinRecord.baseMint, twinRecord.bids, twinRecord.asks],
      a ≠ twinRecord.eventQueue := by
    decide +kernel
  obtain ⟨htrace, _, hother⟩ := build_follows_itinerary b (w := ⟨(), .empty, [], []⟩)
    (answers_fixedSource (twinAnswers (sampleMint 6)))
  obtain ⟨htrace', _, _⟩ := build_follows_itinerary b (w := ⟨(), .empty, [], []⟩)
    (answers_fixedSource (twinAnswers []))
  refine ⟨htrace.trans hgood, htrace'.trans hbad, ?_⟩
  intro data
  refine (hother _ _ _ (answers_fixedSource _) rfl ?_).1
  intro a ha
  rw [hgood] at ha
  exact Function.update_of_ne (hfar a ha) _ _

end Twins

end SerumDex
