import SerumDex.Proofs.RaceLearning
import SerumDex.Proofs.SnapshotContent

/-! Where the decimals in a shared cache come from. A mint is entered with what the first answer to
its lookups said that decoded, and wrapped SOL with nine; from then on every builder uses that entry,
whatever the mint account says later. The two lookups of a call run side by side, and if both are of
one mint they may both fetch it: then the answer that comes first counts. -/
namespace SerumDex

variable {σ : Type} {source : Source σ}

/-- Builders that share a source and a cache, with what has been seen of their lookups so far. -/
structure Pool (σ : Type) where
  workspace : Workspace σ
  builders : List SnapshotBuilder
  seen : List LookupEvent

namespace Pool

/-- Calls run one after the other. The requests of a call are made one after another, or they take
their steps in the order of a schedule; then the call is given up if the schedule ends before all its
requests are done. -/
inductive Action (σ : Type) where
  | world (s : σ)
  | launch (address : Address)
  | choose (builder : Nat) (options : SnapshotOptions)
  | build (builder : Nat)
  | reload (builder : Nat) (market : Market)
  | buildBy (builder : Nat) (schedule : List Turn)
  | reloadBy (builder : Nat) (market : Market) (schedule : List Turn)

def Action.schedule? : Action σ → Option (List Turn)
  | build _ => some Race.inOrder
  | reload _ _ => some Race.inOrder
  | buildBy _ schedule => some schedule
  | reloadBy _ _ schedule => some schedule
  | _ => none

/-- No other request has a turn between the miss of a lookup and its fetch. -/
def Action.Polled (a : Action σ) : Prop :=
  ∀ schedule ∈ a.schedule?, ∃ polls : List Turn, schedule = polls.flatMap Turn.poll

def opening (s : σ) : Pool σ := ⟨⟨s, .empty, [], []⟩, [], []⟩

def cache (d : Pool σ) : DecimalsCache := d.workspace.cache

/-- A pool after a call of a builder, which may have changed. -/
def called (source : Source σ) (d : Pool σ) (i : Nat) (b : SnapshotBuilder) (schedule : List Turn)
    (b' : Option SnapshotBuilder) (w : Workspace σ) : Pool σ where
  workspace := w
  builders := b'.elim d.builders (d.builders.set i)
  seen := d.seen ++ b.eventsBy source schedule d.workspace

/-- One action. A call of a builder that does not exist is none. -/
def perform (source : Source σ) (d : Pool σ) : Action σ → Pool σ
  | .world s => { d with workspace := { d.workspace with source := s } }
  | .launch address => { d with builders := d.builders ++ [SnapshotBuilder.new address] }
  | .choose i o => { d with builders := d.builders.modify i fun b => b.withOptions o }
  | .build i =>
    match d.builders[i]? with
    | some b =>
      let out := (b.build source).run d.workspace
      d.called source i b Race.inOrder (some out.1.2) out.2
    | none => d
  | .reload i m =>
    match d.builders[i]? with
    | some b =>
      let out := (b.reload source m).run d.workspace
      d.called source i b Race.inOrder (some out.1.2.2) out.2
    | none => d
  | .buildBy i schedule =>
    match d.builders[i]? with
    | some b =>
      let out := (b.buildBy source schedule).run d.workspace
      d.called source i b schedule (out.1.map Prod.snd) out.2
    | none => d
  | .reloadBy i m schedule =>
    match d.builders[i]? with
    | some b =>
      let out := (b.reloadBy source m schedule).run d.workspace
      d.called source i b schedule (out.1.map fun result => result.2.2) out.2
    | none => d

def run (source : Source σ) (d : Pool σ) (actions : List (Action σ)) : Pool σ :=
  actions.foldl (perform source) d

/-- All that an action can do to what the builders share. -/
inductive Performed (source : Source σ) (d : Pool σ) (a : Action σ) : Pool σ → Prop
  | quiet {d' : Pool σ} (hc : d'.workspace.cache = d.workspace.cache)
      (hf : d'.workspace.fetches = d.workspace.fetches) (hs : d'.seen = d.seen) :
      Performed source d a d'
  | call {b : SnapshotBuilder} {schedule : List Turn} {w : Workspace σ}
      {result : Option (Except SnapshotError Market × SnapshotBuilder)}
      {events : List LookupEvent} {d' : Pool σ} (hc : d'.workspace.cache = w.cache)
      (hf : d'.workspace.fetches = w.fetches) (hs : d'.seen = d.seen ++ events)
      (ha : a.schedule? = some schedule)
      (h : SnapshotBuilder.Called source b schedule d.workspace result w events) :
      Performed source d a d'

theorem perform_performed (source : Source σ) (d : Pool σ) (a : Action σ) :
    Performed source d a (d.perform source a) := by
  cases a with
  | world s => exact .quiet rfl rfl rfl
  | launch address => exact .quiet rfl rfl rfl
  | choose i o => exact .quiet rfl rfl rfl
  | build i =>
    simp only [perform]
    cases d.builders[i]? with
    | none => exact .quiet rfl rfl rfl
    | some b =>
      obtain ⟨log, hrun⟩ := b.buildBy_inOrder source d.workspace
      refine .call ?_ ?_ rfl rfl (SnapshotBuilder.buildBy_called hrun)
      · rfl
      · rfl
  | reload i m =>
    simp only [perform]
    cases d.builders[i]? with
    | none => exact .quiet rfl rfl rfl
    | some b =>
      obtain ⟨log, hrun⟩ := b.buildBy_inOrder source d.workspace
      -- What a reload does to the pool is done by the build in it.
      refine .call ?_ ?_ rfl rfl (SnapshotBuilder.buildBy_called hrun)
      · change ((b.reload source m).run d.workspace).2.cache = _
        rw [SnapshotBuilder.reload_renew]
      · change ((b.reload source m).run d.workspace).2.fetches = _
        rw [SnapshotBuilder.reload_renew]
  | buildBy i schedule =>
    simp only [perform]
    cases d.builders[i]? with
    | none => exact .quiet rfl rfl rfl
    | some b => exact .call rfl rfl rfl rfl (SnapshotBuilder.buildBy_called rfl)
  | reloadBy i m schedule =>
    simp only [perform]
    cases d.builders[i]? with
    | none => exact .quiet rfl rfl rfl
    | some b => exact .call rfl rfl rfl rfl (SnapshotBuilder.buildBy_called rfl)

theorem run_induction {P : Pool σ → Prop} {actions : List (Action σ)}
    (step : ∀ d d' a, a ∈ actions → P d → Performed source d a d' → P d') {d : Pool σ} (h : P d) :
    P (d.run source actions) := by
  induction actions generalizing d with
  | nil => exact h
  | cons a actions ih =>
    apply ih fun d d' a ha => step d d' a (List.mem_cons_of_mem _ ha)
    exact step d _ a List.mem_cons_self h (d.perform_performed source a)

/-- What holds of what the builders share: the cache is what the answers have taught, every event is
warranted, and the fetches that are seen are those that were made. -/
structure Honest (d : Pool σ) : Prop where
  learnt : Learnt .empty (answersOf d.seen) d.workspace.cache
  warranted : EachAfter LookupEvent.Warranted d.seen
  fetches : d.workspace.lookupFetches = asksOf d.seen

theorem honest_opening (s : σ) : (opening s).Honest :=
  ⟨Learnt.refl _, eachAfter_nil, rfl⟩

theorem Honest.performed {d d' : Pool σ} {a : Action σ} (h : d.Honest)
    (ha : Performed source d a d') : d'.Honest := by
  obtain ⟨hlearnt, hwarranted, hfetches⟩ := h
  cases ha with
  | quiet hc hf hs =>
    refine ⟨?_, ?_, ?_⟩
    · rwa [hc, hs]
    · rwa [hs]
    · rw [Workspace.lookupFetches, hf, hs]
      exact hfetches
  | call hc hf hs ha h =>
    obtain ⟨hlearnt', hwarranted'⟩ := h.learns hlearnt hwarranted
    refine ⟨?_, ?_, ?_⟩
    · rwa [hc, hs]
    · rwa [hs]
    · rw [Workspace.lookupFetches, hf, hs]
      change Workspace.lookupFetches _ = _
      rw [h.lookupFetches_eq, hfetches, asksOf, asksOf, asksOf, List.filterMap_append]

theorem Honest.timely {d d' : Pool σ} {a : Action σ} (h : d.Honest) (hp : a.Polled)
    (ht : EachAfter LookupEvent.Timely d.seen) (ha : Performed source d a d') :
    EachAfter LookupEvent.Timely d'.seen := by
  cases ha with
  | quiet hc hf hs => rwa [hs]
  | call hc hf hs ha hcall =>
    obtain ⟨polls, rfl⟩ := hp _ ha
    rw [hs]
    exact hcall.timely h.learnt h.warranted ht

/-- Later knowledge: entries and events are still there, unchanged and in their places. -/
structure Grows (d d' : Pool σ) : Prop where
  cache : d.cache.Extends d'.cache
  seen : d.seen <+: d'.seen

theorem Grows.performed {d₀ d d' : Pool σ} {a : Action σ} (h : d₀.Grows d)
    (ha : Performed source d a d') : d₀.Grows d' := by
  cases ha with
  | quiet hc hf hs =>
    refine ⟨?_, ?_⟩
    · rw [Pool.cache, Pool.cache, hc]
      exact h.cache
    · rw [hs]
      exact h.seen
  | call hc hf hs ha hcall =>
    refine ⟨?_, ?_⟩
    · rw [Pool.cache, Pool.cache, hc]
      exact h.cache.trans hcall.cache_extends
    · rw [hs]
      exact h.seen.trans (List.prefix_append _ _)

theorem grows_run (d : Pool σ) (actions : List (Action σ)) : d.Grows (d.run source actions) :=
  run_induction (P := d.Grows) (fun _ _ _ _ h ha => h.performed ha)
    ⟨DecimalsCache.Extends.refl _, List.prefix_refl _⟩

end Pool

/-- The live parts of a market are read at the decimals that all builders use for the mints of an
account, and at its lot sizes, from what was fetched for the wanted ones. -/
structure Market.Uses (m : Market) (o : SnapshotOptions) (account : MarketRecord)
    (base quote : UInt8) (answers fetched : List Fetch) : Prop where
  baseKnown : knownDecimals answers account.baseMint = some base
  quoteKnown : knownDecimals answers account.quoteMint = some quote
  furnished : ∃ (asked : List LivePart) (live : LivePart → Bytes), asked.Perm o.parts ∧
    fetched = asked.map (fun p => ⟨.live, p.address account, .ok (live p)⟩) ∧
    m.Furnished o account base quote live

namespace Pool

/-- What has been answered once a builder has made a call. -/
def answersAfter (source : Source σ) (d : Pool σ) (b : SnapshotBuilder) (schedule : List Turn) :
    List Fetch :=
  answersOf (d.seen ++ b.eventsBy source schedule d.workspace)

theorem Honest.uses_of_buildBy {d : Pool σ} (h : d.Honest) {b b' : SnapshotBuilder}
    {schedule : List Turn} {m : Market} {w : Workspace σ} (hn : b.options.needsDecimals = true)
    (hrun : (b.buildBy source schedule).run d.workspace = (some (.ok m, b'), w)) :
    (∃ data, b' = { b with pinned := some data } ∧ m.DecodedFrom data) ∧
      m.Uses b.options m.toMarketRecord m.baseDecimals m.quoteDecimals
        (d.answersAfter source b schedule) (d.workspace.since w .live) := by
  obtain ⟨hlearnt, _⟩ := (SnapshotBuilder.buildBy_called hrun).learns h.learnt h.warranted
  obtain ⟨asked, hperm, hdelivered⟩ := delivered_of_buildBy hrun
  obtain ⟨data, _, hb', hdata⟩ := hdelivered.account
  obtain ⟨hbase, hquote⟩ := hdelivered.resolved hn
  obtain ⟨live, hfetched, hfurnished⟩ := hdelivered.live
  exact ⟨⟨data, hb', hdata⟩, hlearnt.known_of_get? rfl hbase, hlearnt.known_of_get? rfl hquote,
    asked, live, hperm, hfetched, hfurnished⟩

end Pool

/-- What holds at every moment of the decimals that builders share. -/
structure Agreement (source : Source σ) (d : Pool σ) : Prop where
  /-- Every entry is wrapped SOL with nine, or a mint with what its first decoded answer said. -/
  known : ∀ e ∈ d.cache.entries, knownDecimals (answersOf d.seen) e.1 = some e.2
  /-- Every mint that an answer decoded for is entered. -/
  entered : ∀ (mint : Address) (dec : UInt8), firstDecimals (answersOf d.seen) mint = some dec →
    d.cache.get? mint = some dec
  /-- Entries stay, unchanged and in place, whatever is done later. -/
  kept : ∀ later, d.cache.Extends (d.run source later).cache
  /-- A first answer stays the first. -/
  stable : ∀ (later : List (Pool.Action σ)) (mint : Address) (dec : UInt8),
    knownDecimals (answersOf d.seen) mint = some dec →
      knownDecimals (answersOf (d.run source later).seen) mint = some dec
  /-- The fetches for lookups that are seen are those that were made, in their order. -/
  fetches : d.workspace.lookupFetches = asksOf d.seen
  /-- An answer is taken only after its fetch, a mint is fetched only by a lookup that did not find
  it, and no lookup fails to find a mint after its first answer. Wrapped SOL is never fetched. -/
  warranted : EachAfter LookupEvent.Warranted d.seen
  /-- A build that resolves decimals, in whatever order its requests take their steps, resolves them
  to these, and reads the live parts at them. -/
  builds : ∀ (b b' : SnapshotBuilder) (schedule : List Turn) (m : Market) (w : Workspace σ),
    b.options.needsDecimals = true →
    (b.buildBy source schedule).run d.workspace = (some (.ok m, b'), w) →
      (∃ data, b' = { b with pinned := some data } ∧ m.DecodedFrom data) ∧
        m.Uses b.options m.toMarketRecord m.baseDecimals m.quoteDecimals
          (d.answersAfter source b schedule) (d.workspace.since w .live)
  /-- A reload leaves all else of the market as it is, and reads the live parts anew at the decimals
  of the mints of the account that its builder has pinned. -/
  reloads : ∀ (b b' : SnapshotBuilder) (schedule : List Turn) (m m' : Market) (w : Workspace σ),
    b.options.needsDecimals = true →
    (b.reloadBy source m schedule).run d.workspace = (some (.ok (), m', b'), w) →
      m.SameFixed m' ∧ ∃ data account base quote, b' = { b with pinned := some data } ∧
        decodeMarket data = .ok account ∧
        m'.Uses b.options account.toMarketRecord base quote (d.answersAfter source b schedule)
          (d.workspace.since w .live)
  /-- The calls that make their requests one after another are among these, but for what they log. -/
  inOrder : ∀ (b : SnapshotBuilder) (m : Market),
    (∃ log, (b.buildBy source Race.inOrder).run d.workspace =
      (some ((b.build source).run d.workspace).1,
        { ((b.build source).run d.workspace).2 with log := log })) ∧
    ∃ log, (b.reloadBy source m Race.inOrder).run d.workspace =
      (some ((b.reload source m).run d.workspace).1,
        { ((b.reload source m).run d.workspace).2 with log := log })

theorem Pool.Honest.uses_of_reloadBy {d : Pool σ} (h : d.Honest) {b b' : SnapshotBuilder}
    {schedule : List Turn} {m m' : Market} {w : Workspace σ}
    (hn : b.options.needsDecimals = true)
    (hrun : (b.reloadBy source m schedule).run d.workspace = (some (.ok (), m', b'), w)) :
    m.SameFixed m' ∧ ∃ data account base quote, b' = { b with pinned := some data } ∧
      decodeMarket data = .ok account ∧
      m'.Uses b.options account.toMarketRecord base quote (d.answersAfter source b schedule)
        (d.workspace.since w .live) := by
  obtain ⟨outcome, hbuild, hrenew⟩ := SnapshotBuilder.buildBy_of_reloadBy hrun
  cases outcome with
  | error e => exact nomatch congrArg Prod.fst hrenew
  | ok fresh =>
    obtain rfl : m.replaceLive fresh = m' := congrArg (fun out => out.2.1) hrenew
    obtain ⟨⟨data, hb', account, haccount, hrecord, _⟩, hbase, hquote, asked, live, hperm, hfetched,
      hfurnished⟩ := h.uses_of_buildBy hn hbuild
    -- The fresh market is that of the pinned account, and of it only the live parts are taken over.
    rw [hrecord] at hbase hquote hfetched hfurnished
    exact ⟨⟨rfl, rfl, rfl, rfl⟩, data, account, _, _, hb', haccount, hbase, hquote, asked, live,
      hperm, hfetched, hfurnished.books, hfurnished.noBooks, hfurnished.queue, hfurnished.noQueue⟩

/-- All builders that share a cache, empty at first, agree on the decimals of every mint at every
moment of every run, however the requests of each call take their steps. If a lookup that does not
find its mint fetches it at once, no mint is fetched any more after its first answer. -/
theorem agreement_run (source : Source σ) (s : σ) (actions : List (Pool.Action σ)) :
    let d := (Pool.opening s).run source actions
    Agreement source d ∧
      ((∀ a ∈ actions, a.Polled) → EachAfter LookupEvent.Timely d.seen) := by
  intro d
  have h : d.Honest := Pool.run_induction (P := Pool.Honest) (fun _ _ _ _ h ha => h.performed ha)
    (Pool.honest_opening s)
  refine ⟨⟨?_, h.learnt.entered, ?_, ?_, h.fetches, h.warranted, ?_, ?_, ?_⟩, ?_⟩
  · intro e he
    rcases h.learnt.new e he with hold | ⟨_, hknown⟩
    · exact nomatch hold
    · exact hknown
  · intro later
    exact (d.grows_run later).cache
  · intro later mint dec hd
    have hgrows : d.Grows (d.run source later) := d.grows_run later
    obtain ⟨more, hmore⟩ := hgrows.seen
    rw [← hmore, answersOf_append]
    exact knownDecimals_append hd _
  · intro b b' schedule m w hn hrun
    exact h.uses_of_buildBy hn hrun
  · intro b b' schedule m m' w hn hrun
    exact h.uses_of_reloadBy hn hrun
  · intro b m
    exact ⟨b.buildBy_inOrder source d.workspace, b.reloadBy_inOrder source m d.workspace⟩
  · intro hpolled
    -- That fetches are in time rests on what the cache has learnt, so both are kept together.
    have hboth : d.Honest ∧ EachAfter LookupEvent.Timely d.seen := Pool.run_induction
      (P := fun d => d.Honest ∧ EachAfter LookupEvent.Timely d.seen)
      (fun _ _ a ha h hp => ⟨h.1.performed hp, h.1.timely (hpolled a ha) h.2 hp⟩)
      ⟨Pool.honest_opening s, eachAfter_nil⟩
    exact hboth.2

section Twins

/-- The accounts of a market whose two mints are one, with other decimals after each fetch. -/
def twinSource : Source UInt8 := fun address decimals =>
  if address = twinRecord.ownAddress then
    (.ok (writtenHead 3 ++ MarketRecord.layout.write twinRecord), decimals)
  else risingSource address decimals

/-- Both lookups of the first call fetch the one mint. Later calls of another builder and a reload do
not, though the mint has changed. -/
def twinActions : List (Pool.Action UInt8) :=
  [.launch twinRecord.ownAddress, .choose 0 ⟨true, false, false⟩, .buildBy 0 crossed, .world 40,
    .launch twinRecord.ownAddress, .choose 1 ⟨false, false, true⟩, .build 1,
    .reloadBy 0 (twinRecord.toMarket (AccountFlags.ofBits 3)) crossed]

theorem polled_twinActions : ∀ a ∈ twinActions, a.Polled := by
  have hcrossed : ∃ polls : List Turn, crossed = polls.flatMap Turn.poll := ⟨_, rfl⟩
  have hinOrder : ∃ polls : List Turn, Race.inOrder = polls.flatMap Turn.poll := ⟨_, rfl⟩
  simp [twinActions, Pool.Action.Polled, Pool.Action.schedule?, hcrossed, hinOrder]

theorem agreement_run_of_twins :
    let d := (Pool.opening 6).run twinSource twinActions
    (asksOf d.seen).map (fun f => (f.address, f.decimals?)) =
        [(sampleAddress 2, some 8), (sampleAddress 2, some 9)] ∧
      d.cache.entries = [(sampleAddress 2, 9)] ∧
      Agreement twinSource d ∧ EachAfter LookupEvent.Timely d.seen := by
  intro d
  have hasks : (asksOf d.seen).map (fun f => (f.address, f.decimals?)) =
      [(sampleAddress 2, some 8), (sampleAddress 2, some 9)] := by decide +kernel
  have hentries : d.cache.entries = [(sampleAddress 2, 9)] := by decide +kernel
  obtain ⟨hagree, htimely⟩ := agreement_run twinSource 6 twinActions
  exact ⟨hasks, hentries, hagree, htimely polled_twinActions⟩

end Twins

end SerumDex
