import SerumDex.Proofs.RaceAnswers

namespace SerumDex

/-- A side of the book as its account has it, with every byte behind the head. -/
structure OrderBookSide.ReadFrom (book : OrderBookSide) (address : Address) (side : Side)
    (s : Scale) (data : Bytes) : Prop where
  decoded : decodeOrderBookSide address side data s = .ok book
  address : book.address = address
  side : book.side = side
  scale : book.scale = s
  slab : book.slab = data.drop 13

theorem OrderBookSide.readFrom_of_decode {address : Address} {side : Side} {data : Bytes}
    {s : Scale} {book : OrderBookSide} (h : decodeOrderBookSide address side data s = .ok book) :
    book.ReadFrom address side s data := by
  obtain ⟨flags, _, hbook⟩ := ok_of_bind h
  have hbook := Except.ok.inj hbook
  refine ⟨h, ?_, ?_, ?_, ?_⟩ <;> rw [← hbook]
  rfl

/-- Both books are there if they were wanted, and so is the queue. Each is read from the bytes that
came back for it, with the decimals and the lot sizes that are given. What was not wanted is not
there. -/
structure Market.Furnished (m : Market) (o : SnapshotOptions) (account : MarketRecord)
    (base quote : UInt8) (live : LivePart → Bytes) : Prop where
  books : o.orderBooks = true → ∃ bidBook askBook,
    m.bidBook = some bidBook ∧ bidBook.ReadFrom account.bids .bid
      ⟨base, quote, account.baseLotSize, account.quoteLotSize⟩ (live .bids) ∧
    m.askBook = some askBook ∧ askBook.ReadFrom account.asks .ask
      ⟨base, quote, account.baseLotSize, account.quoteLotSize⟩ (live .asks)
  noBooks : o.orderBooks = false → m.bidBook = none ∧ m.askBook = none
  queue : o.eventQueue = true → ∃ q, m.decodedQueue = some q ∧
    decodeEventQueue (live .queue) ⟨base, quote, account.baseLotSize, account.quoteLotSize⟩ = .ok q
  noQueue : o.eventQueue = false → m.decodedQueue = none

theorem Market.Bare.furnished {m : Market} {o : SnapshotOptions} (h : m.Bare)
    (ho : o.needsDecimals = false) (account : MarketRecord) (base quote : UInt8)
    (live : LivePart → Bytes) : m.Furnished o account base quote live := by
  obtain ⟨hbooks, hqueue⟩ := SnapshotOptions.needsDecimals_eq_false ho
  refine ⟨fun hb => ?_, fun _ => ⟨h.bids, h.asks⟩, fun hq => ?_, fun _ => h.queue⟩
  · rw [hbooks] at hb
    exact nomatch hb
  · rw [hqueue] at hq
    exact nomatch hq

/-- A market that is put together has each live part at its own decimals and lot sizes. -/
theorem furnished_of_attach {g : Gathered} {o : SnapshotOptions} {live : LivePart → Bytes}
    {m m' : Market} (hl : g.Brings o live) (hm : m.Bare) (h : g.attach m = .ok m') :
    m'.Furnished o m'.toMarketRecord m'.baseDecimals m'.quoteDecimals live := by
  have he := Gathered.errors_of_attach_ok h
  rw [Gathered.attach_of_brings he hl] at h
  obtain ⟨m₁, hbooks, hqueue⟩ := ok_of_bind h
  -- The books are settled first, and the queue leaves them and the scale as they are.
  have hfurnished : m₁.Furnished ⟨o.orderBooks, false, false⟩ m₁.toMarketRecord m₁.baseDecimals
      m₁.quoteDecimals live := by
    rcases attachBooks_eq_ok hbooks with ⟨ho, rfl⟩ | ⟨ho, bidBook, askBook, hbid, hask, rfl⟩
    · refine ⟨?_, fun _ => ⟨hm.bids, hm.asks⟩, ?_, fun _ => hm.queue⟩
      · intro hb
        exact nomatch ho.symm.trans hb
      · intro hq
        exact nomatch hq
    · refine ⟨?_, ?_, ?_, fun _ => hm.queue⟩
      · intro _
        exact ⟨bidBook, askBook, rfl, OrderBookSide.readFrom_of_decode hbid, rfl,
          OrderBookSide.readFrom_of_decode hask⟩
      · intro hb
        exact nomatch ho.symm.trans hb
      · intro hq
        exact nomatch hq
  rcases attachQueue_eq_ok hqueue with ⟨ho, rfl⟩ | ⟨ho, q, hq, rfl⟩
  · refine ⟨hfurnished.books, hfurnished.noBooks, ?_, fun _ => hfurnished.noQueue rfl⟩
    intro hq
    exact nomatch ho.symm.trans hq
  · refine ⟨hfurnished.books, hfurnished.noBooks, fun _ => ⟨q, rfl, hq⟩, ?_⟩
    intro hq
    exact nomatch ho.symm.trans hq

variable {σ : Type}

/-- What a call that succeeds delivers, having asked for the accounts of some live parts. -/
structure Delivered (source : Source σ) (b : SnapshotBuilder) (w : Workspace σ)
    (asked : List LivePart) (m : Market) (b' : SnapshotBuilder) (w' : Workspace σ) : Prop where
  /-- The market has the fields of the account that was used, which is pinned from then on. -/
  account : ∃ data, (∃ w₁, (b.marketData source).run w = (.ok data, w₁)) ∧
    b' = { b with pinned := some data } ∧ m.DecodedFrom data
  unresolved : b.options.needsDecimals = false →
    m.baseDecimals = 0 ∧ m.quoteDecimals = 0 ∧ m.Bare
  resolved : b.options.needsDecimals = true → m.Resolved w'.cache
  /-- The live parts are read from what came back for them in this call, at the decimals and the lot
  sizes of the market. -/
  live : ∃ live : LivePart → Bytes,
    w.since w' .live = asked.map (fun p => ⟨.live, p.address m.toMarketRecord, .ok (live p)⟩) ∧
    m.Furnished b.options m.toMarketRecord m.baseDecimals m.quoteDecimals live

variable {source : Source σ} {b : SnapshotBuilder} {w w₁ w' : Workspace σ} {data : Bytes}
  {m₀ m : Market}

/-- The account of the market is none of its live parts. -/
theorem since_marketData_live (hdata : (b.marketData source).run w = (.ok data, w₁))
    (hw : w₁.fetches <+: w'.fetches) : w.since w' .live = w₁.since w' .live := by
  have hgrow := (frame_fetches source).marketData b w
  have hmarket : w.since ((b.marketData source).run w).2 .live = [] := by
    rw [SnapshotBuilder.since_marketData, if_neg (fun h => nomatch h.2)]
  rw [hdata] at hgrow hmarket
  rw [Workspace.since_trans hgrow hw, hmarket, List.nil_append]

/-- A call that wants nothing but the account delivers it as it is. -/
theorem delivered_of_fixed (hdata : (b.marketData source).run w = (.ok data, w₁))
    (hm : decodeMarket data = .ok m₀) (hn : b.options.needsDecimals = false)
    (hw : w'.fetches = w₁.fetches) :
    Delivered source b w b.options.parts m₀ { b with pinned := some data } w' := by
  obtain ⟨hbare, hbase, hquote⟩ := decodeMarket_ok hm
  obtain ⟨hbooks, hqueue⟩ := SnapshotOptions.needsDecimals_eq_false hn
  have hgrow : w₁.fetches <+: w'.fetches := ⟨[], (List.append_nil _).trans hw.symm⟩
  have hlive : w.since w' .live = [] := by
    rw [since_marketData_live hdata hgrow, Workspace.since_of_eq hw]
  refine ⟨⟨data, ⟨w₁, hdata⟩, rfl, m₀, hm, rfl, rfl⟩, fun _ => ⟨hbase, hquote, hbare⟩, ?_,
    fun _ => [], ?_, hbare.furnished hn _ _ _ _⟩
  · intro hn'
    exact nomatch hn.symm.trans hn'
  · rw [hlive, SnapshotOptions.parts, hbooks, hqueue]
    rfl

/-- What the requests have brought is put together, in whatever order it came. -/
theorem delivered_of_attach (hdata : (b.marketData source).run w = (.ok data, w₁))
    (hm : decodeMarket data = .ok m₀) (hn : b.options.needsDecimals = true) {g : Gathered}
    (hattach : g.attach m₀ = .ok m)
    (hdecimals : ∀ d, (g.baseDecimals = .ok d → w'.cache.get? m₀.baseMint = some d) ∧
      (g.quoteDecimals = .ok d → w'.cache.get? m₀.quoteMint = some d))
    {live : LivePart → Bytes} (hbrings : g.Brings b.options live) {asked : List LivePart}
    (hlive : w.since w' .live =
      asked.map fun p => ⟨.live, p.address m₀.toMarketRecord, .ok (live p)⟩) :
    Delivered source b w asked m { b with pinned := some data } w' := by
  obtain ⟨hbare, _⟩ := decodeMarket_ok hm
  obtain ⟨hrecord, hflags, hbase, hquote, _⟩ := Gathered.attach_ok hattach hbare
  refine ⟨⟨data, ⟨w₁, hdata⟩, rfl, m₀, hm, hrecord, hflags⟩, ?_, fun _ => ⟨?_, ?_⟩, live, ?_,
    furnished_of_attach hbrings hbare hattach⟩
  · intro hn'
    exact nomatch hn.symm.trans hn'
  · rw [hrecord]
    exact (hdecimals _).1 hbase
  · rw [hrecord]
    exact (hdecimals _).2 hquote
  · rw [hlive, hrecord]

theorem delivered_of_build {b' : SnapshotBuilder}
    (h : (b.build source).run w = ((.ok m, b'), w')) :
    Delivered source b w b.options.parts m b' w' := by
  obtain ⟨data, w₁, hdata, hassemble, rfl⟩ := SnapshotBuilder.build_ok_uses h
  obtain ⟨m₀, hm, _⟩ := (assemble_ok hassemble).account
  cases hn : b.options.needsDecimals with
  | false =>
    unfold SnapshotBuilder.assemble at hassemble
    rw [hm, hn] at hassemble
    obtain rfl : m₀ = m := Except.ok.inj (congrArg Prod.fst hassemble)
    obtain rfl := congrArg Prod.snd hassemble
    exact delivered_of_fixed hdata hm hn rfl
  | true =>
    obtain ⟨hresult, hcache⟩ := build_of_gather hdata hm hn
    have hlive := since_build_live hdata
    rw [SnapshotBuilder.requests_of_decoded hm hn, ← gather_run_workspace] at hlive
    rw [h] at hresult hcache hlive
    obtain ⟨live, hbrings, hfetches⟩ := gather_brings (Gathered.errors_of_attach_ok hresult.symm)
    refine delivered_of_attach hdata hm hn hresult.symm ?_ hbrings (hlive.trans hfetches)
    rw [show w'.cache = _ from hcache]
    exact gather_decimals b.options m₀ w₁

theorem delivered_of_buildBy {schedule : List Turn} {b' : SnapshotBuilder}
    (h : (b.buildBy source schedule).run w = (some (.ok m, b'), w')) :
    ∃ asked : List LivePart, asked.Perm b.options.parts ∧ Delivered source b w asked m b' w' := by
  have hcalled := SnapshotBuilder.buildBy_called h
  generalize hresult : some (Except.ok m, b') = result at hcalled
  generalize b.eventsBy source schedule w = events at hcalled
  cases hcalled with
  | unfetched => exact nomatch hresult
  | undecoded => exact nomatch hresult
  | @fixed data w₁ m₀ hdata hm hn =>
    obtain ⟨hm', rfl⟩ := Prod.mk.inj (Option.some.inj hresult)
    obtain rfl := Except.ok.inj hm'
    exact ⟨_, List.Perm.refl _, delivered_of_fixed hdata hm hn rfl⟩
  | @raced data w₁ m₀ hdata hm hn =>
    obtain ⟨g, hg, hconclude⟩ := Option.map_eq_some_iff.mp hresult.symm
    obtain ⟨asks, hasks⟩ := Race.exists_answered source b.options m₀.toMarketRecord w₁ schedule
    obtain ⟨hattach, rfl⟩ := SnapshotBuilder.of_conclude_ok hconclude
    obtain ⟨live, hbrings, hanswers⟩ := hasks.brings hg (Gathered.errors_of_attach_ok hattach)
    obtain ⟨asked, hperm, hlive⟩ := hasks.since_live hanswers
    refine ⟨asked, hperm, delivered_of_attach hdata hm hn hattach (hasks.decimals hg) hbrings ?_⟩
    rw [since_marketData_live hdata ⟨_, hasks.fetches.symm⟩, hlive]

/-- A finished market has the fields of the account that was used, and no decimals and no live part
if none was wanted. Otherwise its decimals are what the cache holds for its mints after the call. The
fetches for live parts are those of the wanted parts, and the parts are read from what they brought,
at these decimals. This is so whatever the order in which the requests of the call take their steps,
and in a build, which makes them one after another, the fetches are in the order of the parts. -/
theorem build_ok_content (source : Source σ) (b b' : SnapshotBuilder) (w w' : Workspace σ)
    (m : Market) :
    (∀ schedule, (b.buildBy source schedule).run w = (some (.ok m, b'), w') →
      ∃ asked : List LivePart, asked.Perm b.options.parts ∧
        Delivered source b w asked m b' w') ∧
    ((b.build source).run w = ((.ok m, b'), w') →
      Delivered source b w b.options.parts m b' w') :=
  ⟨fun _ h => delivered_of_buildBy h, delivered_of_build⟩

/-- Both lookups of the one mint missed and got different answers: the one that came second to its
lookup is dropped. The books of a build in order are there as well. -/
theorem build_ok_content_of_twins :
    (∃ m b' w' asked, (twinBuilder.buildBy risingSource crossed).run sampleWorkspace =
        (some (.ok m, b'), w') ∧
      m.baseDecimals = 9 ∧ m.quoteDecimals = 9 ∧
      Delivered risingSource twinBuilder sampleWorkspace asked m b' w') ∧
    ∃ m b' w', ((sampleBuilder ⟨true, false, false⟩).build sampleSource).run sampleWorkspace =
        ((.ok m, b'), w') ∧
      Delivered sampleSource (sampleBuilder ⟨true, false, false⟩) sampleWorkspace [.bids, .asks]
        m b' w' := by
  constructor
  · have hdecimals : (((twinBuilder.buildBy risingSource crossed).run sampleWorkspace).1.bind
        fun out => (valueOf? out.1).map fun m => (m.baseDecimals, m.quoteDecimals)) =
          some (9, 9) := by decide +kernel
    rcases hrun : (twinBuilder.buildBy risingSource crossed).run sampleWorkspace with ⟨result, w'⟩
    rw [hrun] at hdecimals
    obtain ⟨⟨outcome, b'⟩, rfl, hvalue⟩ := Option.bind_eq_some_iff.mp hdecimals
    obtain ⟨m, hm, hpair⟩ := Option.map_eq_some_iff.mp hvalue
    cases outcome with
    | error e => exact nomatch hm
    | ok m' =>
      obtain rfl := Option.some.inj hm
      obtain ⟨asked, _, hdelivered⟩ :=
        (build_ok_content risingSource twinBuilder b' sampleWorkspace w' m').1 crossed hrun
      exact ⟨m', b', w', asked, rfl, congrArg Prod.fst hpair, congrArg Prod.snd hpair, hdelivered⟩
  · have hok : (valueOf? (((sampleBuilder ⟨true, false, false⟩).build sampleSource).run
        sampleWorkspace).1.1).isSome = true := by decide +kernel
    rcases hrun : ((sampleBuilder ⟨true, false, false⟩).build sampleSource).run
      sampleWorkspace with ⟨⟨result, b'⟩, w'⟩
    rw [hrun] at hok
    cases result with
    | error e => exact nomatch hok
    | ok m => exact ⟨m, b', w', rfl, (build_ok_content _ _ b' _ w' m).2 hrun⟩

end SerumDex
