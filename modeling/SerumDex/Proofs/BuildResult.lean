import SerumDex.Proofs.BuildFrame
import SerumDex.Proofs.MarketAccount

namespace SerumDex

section Except

variable {ε δ α β : Type}

theorem ok_of_bind {x : Except ε α} {f : α → Except ε β} {b : β} (h : x >>= f = .ok b) :
    ∃ a, x = .ok a ∧ f a = .ok b := by
  cases x with
  | error e => exact nomatch h
  | ok a => exact ⟨a, rfl, h⟩

theorem ok_of_mapError {x : Except ε α} {f : ε → δ} {a : α} (h : x.mapError f = .ok a) :
    x = .ok a := by
  cases x with
  | error e => exact nomatch h
  | ok a' => exact congrArg Except.ok (Except.ok.inj h)

end Except

namespace Market

/-- The same account and the same decimals; only the live parts may differ. -/
structure SameFixed (m m' : Market) : Prop where
  record : m'.toMarketRecord = m.toMarketRecord
  flags : m'.flags = m.flags
  baseDecimals : m'.baseDecimals = m.baseDecimals
  quoteDecimals : m'.quoteDecimals = m.quoteDecimals

theorem SameFixed.refl (m : Market) : m.SameFixed m := ⟨rfl, rfl, rfl, rfl⟩

theorem SameFixed.trans {m m' m'' : Market} (h : m.SameFixed m') (h' : m'.SameFixed m'') :
    m.SameFixed m'' :=
  ⟨h'.record.trans h.record, h'.flags.trans h.flags, h'.baseDecimals.trans h.baseDecimals,
    h'.quoteDecimals.trans h.quoteDecimals⟩

theorem SameFixed.scale {m m' : Market} (h : m.SameFixed m') : m'.scale = m.scale := by
  simp only [Market.scale, h.record, h.baseDecimals, h.quoteDecimals]

/-- Whatever live part is there carries a scale. -/
structure ScaledBy (m : Market) (s : Scale) : Prop where
  bids : ∀ book ∈ m.bidBook, book.scale = s
  asks : ∀ book ∈ m.askBook, book.scale = s
  queue : ∀ q ∈ m.decodedQueue, q.scale = s

structure Bare (m : Market) : Prop where
  bids : m.bidBook = none
  asks : m.askBook = none
  queue : m.decodedQueue = none

theorem Bare.scaledBy {m : Market} (h : m.Bare) (s : Scale) : m.ScaledBy s := by
  refine ⟨?_, ?_, ?_⟩
  · intro book hb
    rw [h.bids] at hb
    exact nomatch hb
  · intro book hb
    rw [h.asks] at hb
    exact nomatch hb
  · intro q hq
    rw [h.queue] at hq
    exact nomatch hq

/-- The decimals of a market are those that a cache holds for its mints. -/
structure Resolved (m : Market) (cache : DecimalsCache) : Prop where
  base : cache.get? m.baseMint = some m.baseDecimals
  quote : cache.get? m.quoteMint = some m.quoteDecimals

theorem Resolved.extends {m : Market} {cache cache' : DecimalsCache} (h : m.Resolved cache)
    (hc : cache.Extends cache') : m.Resolved cache' := ⟨hc.get? h.base, hc.get? h.quote⟩

end Market

/-- The fields that the account of a market has are those of the given bytes. -/
def Market.DecodedFrom (m : Market) (data : Bytes) : Prop :=
  ∃ m₀, decodeMarket data = .ok m₀ ∧ m.toMarketRecord = m₀.toMarketRecord ∧ m.flags = m₀.flags

theorem Market.DecodedFrom.unique {m m' : Market} {data : Bytes} (h : m.DecodedFrom data)
    (h' : m'.DecodedFrom data) : m'.toMarketRecord = m.toMarketRecord ∧ m'.flags = m.flags := by
  obtain ⟨m₀, hd, hrecord, hflags⟩ := h
  obtain ⟨m₁, hd', hrecord', hflags'⟩ := h'
  obtain rfl : m₀ = m₁ := Except.ok.inj (hd.symm.trans hd')
  exact ⟨hrecord'.trans hrecord.symm, hflags'.trans hflags.symm⟩

/-- A market account is decoded without decimals and without live parts. -/
theorem decodeMarket_ok {data : Bytes} {m : Market} (h : decodeMarket data = .ok m) :
    m.Bare ∧ m.baseDecimals = 0 ∧ m.quoteDecimals = 0 := by
  obtain ⟨flags, record, _, _, rfl⟩ := decodeMarket_eq_ok_iff.mp h
  exact ⟨⟨rfl, rfl, rfl⟩, rfl, rfl⟩

theorem scale_of_decodeSide {address : Address} {side : Side} {data : Bytes} {s : Scale}
    {book : OrderBookSide} (h : decodeSide address side data s = .ok book) : book.scale = s := by
  obtain ⟨flags, _, hb⟩ := ok_of_bind (ok_of_mapError h)
  rw [← Except.ok.inj hb]

/-- What a queue that was decoded has been read from. -/
structure EventQueue.ReadFrom (q : EventQueue) (data : Bytes) (scale : Scale) : Prop where
  flags : decodeHead .eventQueue data = .ok q.header.flags
  capacity : queueCapacity data.length = .ok q.capacity
  scale_eq : q.scale = scale
  count_le : q.header.count.toNat ≤ q.capacity
  events : q.events =
    tradesOf (queueSlots data) q.header.head.toNat q.header.count.toNat scale
  owners : q.owners = ownersOf q.events

theorem readFrom_of_decodeEventQueue {data : Bytes} {scale : Scale} {q : EventQueue}
    (h : decodeEventQueue data scale = .ok q) : q.ReadFrom data scale := by
  obtain ⟨flags, hflags, h⟩ := ok_of_bind h
  obtain ⟨capacity, hcapacity, h⟩ := ok_of_bind h
  obtain ⟨counters, _, h⟩ := ok_of_bind h
  by_cases hcount : capacity < counters.count.toNat
  · rw [if_pos hcount] at h
    exact nomatch h
  · rw [if_neg hcount] at h
    rw [← Except.ok.inj h]
    exact ⟨hflags, hcapacity, rfl, Nat.le_of_not_lt hcount, rfl, rfl⟩

theorem attachBooks_ok {m m' : Market} {bids asks : Option Bytes}
    (h : attachBooks m bids asks = .ok m') (hm : m.ScaledBy m.scale) :
    m.SameFixed m' ∧ m'.ScaledBy m.scale := by
  match bids, asks, h with
  | some bids, some asks, h =>
    obtain ⟨bidBook, hbid, h⟩ := ok_of_bind h
    obtain ⟨askBook, hask, h⟩ := ok_of_bind h
    rw [← Except.ok.inj h]
    refine ⟨⟨rfl, rfl, rfl, rfl⟩, ?_, ?_, hm.queue⟩
    · intro book hb
      rw [← Option.some.inj hb]
      exact scale_of_decodeSide hbid
    · intro book hb
      rw [← Option.some.inj hb]
      exact scale_of_decodeSide hask
  | none, _, h =>
    rw [← Except.ok.inj h]
    exact ⟨Market.SameFixed.refl m, hm⟩
  | some _, none, h =>
    rw [← Except.ok.inj h]
    exact ⟨Market.SameFixed.refl m, hm⟩

theorem attachQueue_ok {m m' : Market} {queue : Option Bytes}
    (h : attachQueue m queue = .ok m') (hm : m.ScaledBy m.scale) :
    m.SameFixed m' ∧ m'.ScaledBy m.scale := by
  cases queue with
  | none =>
    rw [← Except.ok.inj h]
    exact ⟨Market.SameFixed.refl m, hm⟩
  | some data =>
    obtain ⟨queue, hqueue, h⟩ := ok_of_bind h
    rw [← Except.ok.inj h]
    refine ⟨⟨rfl, rfl, rfl, rfl⟩, hm.bids, hm.asks, ?_⟩
    intro q hq
    rw [← Option.some.inj hq]
    exact (readFrom_of_decodeEventQueue (ok_of_mapError hqueue)).scale_eq

theorem Gathered.decimals_of_errors {g : Gathered} (h : g.errors = []) :
    ∃ base quote, g.baseDecimals = .ok base ∧ g.quoteDecimals = .ok quote := by
  have hnone := List.filterMap_eq_nil_iff.mp h
  have hb : errorOf? g.baseDecimals = none := hnone _ List.mem_cons_self
  have hq : errorOf? g.quoteDecimals = none := hnone _ (List.mem_cons_of_mem _ List.mem_cons_self)
  cases hbase : g.baseDecimals with
  | error e =>
    rw [hbase] at hb
    exact nomatch hb
  | ok base =>
    cases hquote : g.quoteDecimals with
    | error e =>
      rw [hquote] at hq
      exact nomatch hq
    | ok quote => exact ⟨base, quote, rfl, rfl⟩

/-- A finished market has the account it started from and both decimals that were looked up, and its
live parts are scaled by it. -/
theorem Gathered.attach_ok {g : Gathered} {m m' : Market} (h : g.attach m = .ok m') (hm : m.Bare) :
    m'.toMarketRecord = m.toMarketRecord ∧ m'.flags = m.flags ∧
      g.baseDecimals = .ok m'.baseDecimals ∧ g.quoteDecimals = .ok m'.quoteDecimals ∧
      m'.ScaledBy m'.scale := by
  unfold Gathered.attach at h
  cases he : SnapshotError.ofList? g.errors with
  | some e =>
    rw [he] at h
    exact nomatch h
  | none =>
    rw [he] at h
    obtain ⟨base, quote, hbase, hquote⟩ := g.decimals_of_errors (SnapshotError.ofList?_eq_none_iff.mp he)
    obtain ⟨m₁, hbooks, hqueue⟩ := ok_of_bind h
    -- The decimals are settled first, and neither the books nor the queue change them any more.
    have hbare : (g.withDecimals m).Bare := ⟨hm.bids, hm.asks, hm.queue⟩
    obtain ⟨hf₁, hs₁⟩ := attachBooks_ok hbooks (hbare.scaledBy _)
    rw [← hf₁.scale] at hs₁
    obtain ⟨hf₂, hs₂⟩ := attachQueue_ok hqueue hs₁
    have hf := hf₁.trans hf₂
    refine ⟨hf.record, hf.flags, ?_, ?_, ?_⟩
    · rw [hf.baseDecimals, hbase]
      simp only [Gathered.withDecimals, hbase, valueOf?, Option.getD_some]
    · rw [hf.quoteDecimals, hquote]
      simp only [Gathered.withDecimals, hquote, valueOf?, Option.getD_some]
    · rw [hf₂.scale]
      exact hs₂

section Runs

variable {σ : Type} {source : Source σ}

theorem gather_decimals (o : SnapshotOptions) (m : Market) (w : Workspace σ) (d : UInt8) :
    (((gather source o m).run w).1.baseDecimals = .ok d →
      ((gather source o m).run w).2.cache.get? m.baseMint = some d) ∧
    (((gather source o m).run w).1.quoteDecimals = .ok d →
      ((gather source o m).run w).2.cache.get? m.quoteMint = some d) := by
  have hf := frame_extends source
  let base := (lookupDecimals source m.baseMint).run w
  let quote := (lookupDecimals source m.quoteMint).run base.2
  let bids := (fetchIf source o.orderBooks m.bids).run quote.2
  let asks := (fetchIf source o.orderBooks m.asks).run bids.2
  let queue := (fetchIf source o.eventQueue m.eventQueue).run asks.2
  have hrun : (gather source o m).run w =
      (⟨base.1, quote.1, bids.1, asks.1, queue.1⟩, queue.2) := rfl
  -- What the lookups have entered is still there after the three fetches.
  have hlive : quote.2.cache.Extends queue.2.cache :=
    hf.trans (hf.fetchIf o.orderBooks m.bids quote.2)
      (hf.trans (hf.fetchIf o.orderBooks m.asks bids.2)
        (hf.fetchIf o.eventQueue m.eventQueue asks.2))
  rw [hrun]
  constructor
  · intro hd
    apply (hf.trans (hf.lookup m.quoteMint base.2) hlive).get?
    exact (lookupDecimals_run source m.baseMint w).get?_of_ok hd
  · intro hd
    apply hlive.get?
    exact (lookupDecimals_run source m.quoteMint base.2).get?_of_ok hd

/-- The market that belongs to an account, as a builder with some options hands it out. -/
structure Snapshot (data : Bytes) (o : SnapshotOptions) (cache : DecimalsCache) (m : Market) :
    Prop where
  account : m.DecodedFrom data
  resolved : o.needsDecimals = true → m.Resolved cache
  unresolved : o.needsDecimals = false → m.baseDecimals = 0 ∧ m.quoteDecimals = 0 ∧ m.Bare
  scaled : m.ScaledBy m.scale

theorem emitAll_run (es : List LogEvent) (w : Workspace σ) :
    (es.forM Step.emit).run w = ((), { w with log := w.log ++ es }) := by
  induction es generalizing w with
  | nil =>
    rw [List.append_nil]
    rfl
  | cons e es ih =>
    change (es.forM Step.emit).run { w with log := w.log ++ [e] } = _
    rw [ih, List.append_assoc, List.singleton_append]

variable (source) in
/-- With decimals wanted, all is gathered first and put together then; the rest is logging. -/
theorem assemble_run (b : SnapshotBuilder) {data : Bytes} {m₀ : Market} (w : Workspace σ)
    (hd : decodeMarket data = .ok m₀) (hn : b.options.needsDecimals = true) :
    ∃ es, (b.assemble source data).run w =
      (((gather source b.options m₀).run w).1.attach m₀,
        { ((gather source b.options m₀).run w).2 with
          log := ((gather source b.options m₀).run w).2.log ++ es }) := by
  unfold SnapshotBuilder.assemble
  rw [hd, hn]
  simp only [if_true, Step.run_bind]
  cases hr : ((gather source b.options m₀).run w).1.attach m₀ with
  | error e =>
    refine ⟨[], ?_⟩
    rw [List.append_nil]
    rfl
  | ok m =>
    refine ⟨completionEvents b.address m, ?_⟩
    simp only [Step.run_bind, emitAll_run]
    rfl

theorem assemble_ok {b : SnapshotBuilder} {data : Bytes} {w w' : Workspace σ} {m : Market}
    (h : (b.assemble source data).run w = (.ok m, w')) :
    Snapshot data b.options w'.cache m := by
  cases hd : decodeMarket data with
  | error e =>
    unfold SnapshotBuilder.assemble at h
    rw [hd] at h
    exact nomatch h
  | ok m₀ =>
    obtain ⟨hbare, hbase, hquote⟩ := decodeMarket_ok hd
    cases hn : b.options.needsDecimals with
    | false =>
      unfold SnapshotBuilder.assemble at h
      rw [hd, hn] at h
      obtain rfl : m₀ = m := Except.ok.inj (congrArg Prod.fst h)
      refine ⟨⟨m₀, hd, rfl, rfl⟩, fun hn' => ?_, fun _ => ⟨hbase, hquote, hbare⟩, hbare.scaledBy _⟩
      rw [hn] at hn'
      exact nomatch hn'
    | true =>
      obtain ⟨es, hrun⟩ := assemble_run source b w hd hn
      rw [hrun] at h
      obtain ⟨hrecord, hflags, hb, hq, hs⟩ := Gathered.attach_ok (congrArg Prod.fst h) hbare
      refine ⟨⟨m₀, hd, hrecord, hflags⟩, fun _ => ?_, fun hn' => ?_, hs⟩
      · obtain rfl := congrArg Prod.snd h
        constructor
        · rw [hrecord]
          exact (gather_decimals b.options m₀ w _).1 hb
        · rw [hrecord]
          exact (gather_decimals b.options m₀ w _).2 hq
      · rw [hn] at hn'
        exact nomatch hn'

theorem build_run_eq (b : SnapshotBuilder) (w : Workspace σ) :
    (b.build source).run w =
      match (b.marketData source).run w with
      | (.error e, w) => ((.error (.fetch e), b), w)
      | (.ok data, w) =>
        match (b.assemble source data).run w with
        | (.error e, w) => ((.error e, b), w)
        | (.ok m, w) => ((.ok m, { b with pinned := some data }), w) := by
  rw [SnapshotBuilder.build, Step.run_bind]
  rcases (b.marketData source).run w with ⟨fetched, w₁⟩
  cases fetched with
  | error e => rfl
  | ok data =>
    simp only [Step.run_bind]
    rcases (b.assemble source data).run w₁ with ⟨result, w₂⟩
    cases result <;> rfl

theorem build_error {b b' : SnapshotBuilder} {w w' : Workspace σ} {e : SnapshotError}
    (h : (b.build source).run w = ((.error e, b'), w')) : b' = b := by
  rw [build_run_eq] at h
  split at h
  · exact (congrArg (fun out => out.1.2) h).symm
  · split at h
    · exact (congrArg (fun out => out.1.2) h).symm
    · exact nomatch congrArg (fun out => out.1.1) h

/-- A build that succeeds pins the account it used, which is the pinned one if there is one. -/
theorem build_ok {b b' : SnapshotBuilder} {w w' : Workspace σ} {m : Market}
    (h : (b.build source).run w = ((.ok m, b'), w')) :
    ∃ data, b' = { b with pinned := some data } ∧ (∀ pinned ∈ b.pinned, data = pinned) ∧
      Snapshot data b.options w'.cache m := by
  rw [build_run_eq] at h
  split at h
  · exact nomatch congrArg (fun out => out.1.1) h
  · next data w₁ hdata =>
    split at h
    · exact nomatch congrArg (fun out => out.1.1) h
    · next m' w₂ hassemble =>
      obtain rfl : m' = m := Except.ok.inj (congrArg (fun out => out.1.1) h)
      obtain rfl : w₂ = w' := congrArg (fun out => out.2) h
      refine ⟨data, (congrArg (fun out => out.1.2) h).symm, ?_, assemble_ok hassemble⟩
      intro pinned hp
      rw [SnapshotBuilder.marketData, hp] at hdata
      exact (Except.ok.inj (congrArg Prod.fst hdata)).symm

variable (source) in
theorem build_keeps_pinned {b : SnapshotBuilder} {data : Bytes} (h : b.pinned = some data)
    (w : Workspace σ) : ((b.build source).run w).1.2.pinned = some data := by
  rcases hrun : (b.build source).run w with ⟨⟨result, b'⟩, w'⟩
  cases result with
  | error e =>
    rw [build_error hrun]
    exact h
  | ok m =>
    obtain ⟨data', hb', hpinned, _⟩ := build_ok hrun
    rw [hb', hpinned data h]

end Runs

end SerumDex
