import SerumDex.Proofs.RaceAnswers
import SerumDex.Proofs.RaceLearning

namespace SerumDex

variable {σ : Type} {source : Source σ}

namespace SnapshotBuilder

variable {b b' : SnapshotBuilder} {schedule : List Turn} {w w₁ w' : Workspace σ} {data : Bytes}
  {m : Market}

/-- However the requests of a call take their steps and whatever they are answered, no failure is
dropped and their order is fixed: one is the error itself, several are aggregated. With none, the
first wanted part that does not decode is the error, read with the decimals that the cache holds. -/
theorem buildBy_error_of_answers {result : Except SnapshotError Market}
    (hdata : (b.marketData source).run w = (.ok data, w₁)) (hm : decodeMarket data = .ok m)
    (hn : b.options.needsDecimals = true)
    (h : (b.buildBy source schedule).run w = (some (result, b'), w')) :
    ∃ asks : List (Turn × Except FetchError Bytes),
      w'.fetches = w₁.fetches ++ asks.map (fun a => a.1.fetch m.toMarketRecord a.2) ∧
      (asks.map Prod.fst).Nodup ∧
      let failed := Turn.failures m.toMarketRecord asks
      (∀ e, failed = [e] → result = .error e) ∧
      (2 ≤ failed.length → result = .error (.aggregate failed)) ∧
      (failed = [] → ∃ (live : LivePart → Bytes) (base quote : UInt8),
        (∀ part, asks.lookup (.live part) =
          if b.options.wants part then some (.ok (live part)) else none) ∧
        w'.cache.get? m.baseMint = some base ∧ w'.cache.get? m.quoteMint = some quote ∧
        errorOf? result = b.options.parts.findSome? fun p =>
          p.failure? m.toMarketRecord ⟨base, quote, m.baseLotSize, m.quoteLotSize⟩ (live p)) := by
  obtain ⟨asks, hasks⟩ :=
    Race.exists_answered source b.options m.toMarketRecord w₁ schedule
  rw [buildBy_of_needed schedule hdata hm hn] at h
  obtain rfl : ((Race.start w₁).run source b.options m.toMarketRecord schedule).workspace = w' :=
    congrArg Prod.snd h
  obtain ⟨g, hg, hconclude⟩ := Option.map_eq_some_iff.mp (congrArg Prod.fst h)
  -- The errors and the bytes that were gathered are those of the answers, whenever they came.
  have hresult : g.attach m = result := by
    rw [← fst_conclude b data (g.attach m), hconclude]
  have herrors : g.errors = Turn.failures m.toMarketRecord asks := hasks.errors hg
  have hreported := Gathered.attach_of_failed herrors m
  rw [hresult] at hreported
  refine ⟨asks, hasks.fetches, hasks.nodup, hreported.1, hreported.2, ?_⟩
  intro hnone
  rw [hnone] at herrors
  obtain ⟨base, quote, hbase, hquote⟩ := Gathered.decimals_of_errors herrors
  obtain ⟨live, hbrings, hlive⟩ := hasks.brings hg herrors
  refine ⟨live, base, quote, hlive, (hasks.decimals hg base).1 hbase,
    (hasks.decimals hg quote).2 hquote, ?_⟩
  rw [← hresult]
  exact Gathered.errorOf?_attach_of_decimals herrors hbase hquote hbrings

end SnapshotBuilder

theorem LookupPhase.Turned.mem_entries {mint : Address} {v v' : Workspace σ}
    {before after : LookupPhase} (t : Turned source mint v before (after, v'))
    {e : Address × UInt8} (he : e ∈ v'.cache.entries) : e ∈ v.cache.entries ∨ e.1 = mint := by
  have hinsert {d : UInt8} (he : e ∈ (v.cache.insert mint d).2.entries) :
      e ∈ v.cache.entries ∨ e.1 = mint := by
    cases hc : v.cache.get? mint with
    | some kept =>
      rw [DecimalsCache.insert_of_some hc] at he
      exact .inl he
    | none =>
      rw [DecimalsCache.insert_of_none hc] at he
      exact (List.mem_append.mp he).imp_right fun h => congrArg Prod.fst (List.mem_singleton.mp h)
  cases t with
  | wrappedSol hm =>
    subst hm
    exact hinsert he
  | learned answer d => exact hinsert he
  | _ => exact .inl he

/-- A race enters no mint but those of its market. -/
theorem Race.mem_entries_run (source : Source σ) (o : SnapshotOptions) (m : MarketRecord)
    (w : Workspace σ) (schedule : List Turn) :
    ∀ e ∈ ((start w).run source o m schedule).workspace.cache.entries,
      e ∈ w.cache.entries ∨ ∃ role : MintRole, e.1 = role.mint m := by
  refine run_invariant (P := fun r => ∀ e ∈ r.workspace.cache.entries,
    e ∈ w.cache.entries ∨ ∃ role : MintRole, e.1 = role.mint m) ?_ (fun _ => .inl) schedule
  intro r r' e? h t e he
  cases t with
  | lookup role t =>
    rcases t.mem_entries he with hold | hmint
    · exact h e hold
    · exact .inr ⟨role, hmint⟩
  | live part t =>
    rw [show _ = r.workspace.cache from t.cache_eq] at he
    exact h e he

namespace SnapshotBuilder

variable {b b' : SnapshotBuilder} {schedule : List Turn} {w w₁ w' : Workspace σ} {data : Bytes}
  {m : Market} {result : Option (Except SnapshotError Market × SnapshotBuilder)}
  {events : List LookupEvent}

theorem Called.builder_of_error (h : Called source b schedule w result w' events)
    {e : SnapshotError} (hr : result = some (.error e, b')) : b' = b := by
  cases h with
  | unfetched => exact (congrArg Prod.snd (Option.some.inj hr)).symm
  | undecoded => exact (congrArg Prod.snd (Option.some.inj hr)).symm
  | fixed => exact nomatch congrArg Prod.fst (Option.some.inj hr)
  | raced =>
    obtain ⟨g, _, hconclude⟩ := Option.map_eq_some_iff.mp hr
    exact (of_conclude_error hconclude).2

/-- A call enters no mint but those of its market. -/
theorem Called.mem_entries (h : Called source b schedule w result w' events)
    {e : Address × UInt8} (he : e ∈ w'.cache.entries) :
    e ∈ w.cache.entries ∨ ∃ data w₁ m, (b.marketData source).run w = (.ok data, w₁) ∧
      decodeMarket data = .ok m ∧ ∃ role : MintRole, e.1 = role.mint m.toMarketRecord := by
  cases h with
  | unfetched hdata =>
    rw [(lookups_of_marketData hdata).1] at he
    exact .inl he
  | undecoded hdata =>
    rw [(lookups_of_marketData hdata).1] at he
    exact .inl he
  | fixed hdata =>
    rw [(lookups_of_marketData hdata).1] at he
    exact .inl he
  | @raced data w₁ m hdata hm =>
    rw [← (lookups_of_marketData hdata).1]
    exact (Race.mem_entries_run source b.options m.toMarketRecord w₁ schedule e he).imp_right
      fun hrole => ⟨data, w₁, m, hdata, hm, hrole⟩

end SnapshotBuilder

/-- What a failed call leaves of its builder and of the cache, when its requests took their steps in
the order of a schedule. -/
structure SparedBy (source : Source σ) (schedule : List Turn) (b b' : SnapshotBuilder)
    (w w' : Workspace σ) : Prop where
  builder : b' = b
  /-- Entries are kept, and new ones are what the answers of this call said first. -/
  learnt : Learnt w.cache (answersOf (b.eventsBy source schedule w)) w'.cache
  mints : ∀ e ∈ w'.cache.entries, e ∈ w.cache.entries ∨
    ∃ data w₁ m, (b.marketData source).run w = (.ok data, w₁) ∧ decodeMarket data = .ok m ∧
      ∃ role : MintRole, e.1 = role.mint m.toMarketRecord
  /-- Every lookup that has found its decimals has them in the cache. -/
  remembered : ∀ data w₁ m, (b.marketData source).run w = (.ok data, w₁) →
    decodeMarket data = .ok m → b.options.needsDecimals = true → ∀ (role : MintRole) (d : UInt8),
    ((Race.start w₁).run source b.options m.toMarketRecord schedule).lookups role = .done (.ok d) →
      w'.cache.get? (role.mint m.toMarketRecord) = some d

theorem sparedBy_of_buildBy {b b' : SnapshotBuilder} {schedule : List Turn} {w w' : Workspace σ}
    {e : SnapshotError} (h : (b.buildBy source schedule).run w = (some (.error e, b'), w')) :
    SparedBy source schedule b b' w w' := by
  have hcalled := SnapshotBuilder.buildBy_called h
  refine ⟨hcalled.builder_of_error rfl, (hcalled.learns (Learnt.refl w.cache) eachAfter_nil).1,
    fun _ => hcalled.mem_entries, ?_⟩
  intro data w₁ m hdata hm hn role d hdone
  rw [SnapshotBuilder.buildBy_of_needed schedule hdata hm hn] at h
  obtain rfl : ((Race.start w₁).run source b.options m.toMarketRecord schedule).workspace = w' :=
    congrArg Prod.snd h
  obtain ⟨asks, hasks⟩ := Race.exists_answered source b.options m.toMarketRecord w₁ schedule
  have hlookup := hasks.lookups role
  rw [hdone] at hlookup
  exact hlookup.2 d rfl

/-- A call that fails, however its requests took their steps and whatever they were answered, changes
neither the builder nor the market, and the cache only by what this call found for the mints of its
market, all of which is kept. -/
theorem failed_callBy_spares (source : Source σ) (b : SnapshotBuilder) (m : Market)
    (schedule : List Turn) (w : Workspace σ) :
    (∀ e b' w', (b.buildBy source schedule).run w = (some (.error e, b'), w') →
        SparedBy source schedule b b' w w') ∧
      (∀ e m' b' w', (b.reloadBy source m schedule).run w = (some (.error e, m', b'), w') →
        m' = m ∧ SparedBy source schedule b b' w w') := by
  constructor
  · intro e b' w' h
    exact sparedBy_of_buildBy h
  · intro e m' b' w' h
    obtain ⟨outcome, hbuild, hrenew⟩ := SnapshotBuilder.buildBy_of_reloadBy h
    cases outcome with
    | ok fresh => exact nomatch congrArg Prod.fst hrenew
    | error e' =>
      obtain rfl : m = m' := congrArg (fun out => out.2.1) hrenew
      exact ⟨rfl, sparedBy_of_buildBy hbuild⟩

end SerumDex
