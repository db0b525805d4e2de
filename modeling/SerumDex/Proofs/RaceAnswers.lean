import Mathlib.Data.List.Nodup
import SerumDex.Proofs.BuildOutcome
import SerumDex.Proofs.RaceCalls

namespace SerumDex

variable {σ : Type} {source : Source σ}

namespace Turn

/-- The requests of a snapshot in their order, wanted or not. -/
def all : List Turn := [lookup .base, lookup .quote, live .bids, live .asks, live .queue]

/-- The fetch that a request makes, with its answer. -/
def fetch (m : MarketRecord) (answer : Except FetchError Bytes) : Turn → Fetch
  | lookup role => ⟨.decimals, role.mint m, answer⟩
  | live part => ⟨.live, part.address m, answer⟩

/-- The error that the answer to a request makes, if it is of no use. -/
def failure? (m : MarketRecord) (answer : Except FetchError Bytes) : Turn → Option SnapshotError
  | lookup role => mintFailure? (role.mint m) answer
  | live _ => (errorOf? answer).map .fetch

/-- What went wrong by some answers, in the order of the requests. -/
def failures (m : MarketRecord) (asks : List (Turn × Except FetchError Bytes)) :
    List SnapshotError :=
  all.filterMap fun t => (asks.lookup t).bind fun answer => t.failure? m answer

def part? : Turn → Option LivePart
  | lookup _ => none
  | live part => some part

theorem part?_eq_some_iff {t : Turn} {part : LivePart} : t.part? = some part ↔ t = live part := by
  cases t with
  | lookup role =>
    constructor <;> intro h
    · exact nomatch h
    · exact nomatch h
  | live part' =>
    constructor <;> intro h
    · exact congrArg live (Option.some.inj h)
    · exact congrArg some (live.inj h)

end Turn

theorem SnapshotOptions.mem_parts_iff (o : SnapshotOptions) (part : LivePart) :
    part ∈ o.parts ↔ o.wants part = true := by
  obtain ⟨orderBooks, eventQueue, decimalsOnly⟩ := o
  cases part <;> decide +revert

theorem SnapshotOptions.nodup_parts (o : SnapshotOptions) : o.parts.Nodup := by
  obtain ⟨orderBooks, eventQueue, decimalsOnly⟩ := o
  decide +revert

/-- Where a lookup stands, by the answer that was given to its fetch. What it has found is in the
cache. -/
def LookupPhase.Answered (mint : Address) (cache : DecimalsCache)
    (answer? : Option (Except FetchError Bytes)) : LookupPhase → Prop
  | idle => answer? = none
  | missed => answer? = none
  | asked answer => answer? = some answer
  | done outcome => errorOf? outcome = answer?.bind (mintFailure? mint) ∧
      ∀ d, outcome = .ok d → cache.get? mint = some d

/-- Where the fetch of a live part stands, by the answer that was given to it. -/
def LivePhase.Answered (wanted : Bool) (answer? : Option (Except FetchError Bytes)) :
    LivePhase → Prop
  | idle => answer? = none
  | asked answer => wanted = true ∧ answer? = some answer
  | done outcome => answer?.isSome = wanted ∧
      outcome = answer?.map fun answer => answer.mapError .fetch

theorem LookupPhase.Answered.extends_cache {mint : Address} {cache cache' : DecimalsCache}
    {answer? : Option (Except FetchError Bytes)} {phase : LookupPhase}
    (h : phase.Answered mint cache answer?) (hc : cache.Extends cache') :
    phase.Answered mint cache' answer? := by
  cases phase with
  | idle => exact h
  | missed => exact h
  | asked answer => exact h
  | done outcome => exact ⟨h.1, fun d hd => hc.get? (h.2 d hd)⟩

section Turned

variable {v v' : Workspace σ} {answer? : Option (Except FetchError Bytes)}

/-- A turn of a lookup makes its fetch, if there is no answer yet, or it fetches nothing. -/
theorem LookupPhase.Turned.answered {mint : Address} {before after : LookupPhase}
    (t : Turned source mint v before (after, v')) (h : before.Answered mint v.cache answer?) :
    (v'.fetches = v.fetches ∧ after.Answered mint v'.cache answer?) ∨
    (answer? = none ∧ ∃ answer, v'.fetches = v.fetches ++ [⟨.decimals, mint, answer⟩] ∧
      after.Answered mint v'.cache (some answer)) := by
  have hfound {d : UInt8} {cache : DecimalsCache} (hd : cache.get? mint = some d) (d' : UInt8)
      (hd' : (Except.ok d : Except SnapshotError UInt8) = .ok d') : cache.get? mint = some d' := by
    rwa [← Except.ok.inj hd']
  cases t with
  | wrappedSol =>
    have hnone : answer? = none := h
    rw [hnone]
    exact .inl ⟨rfl, rfl, hfound (DecimalsCache.get?_insert_self _ _ _)⟩
  | cached hm d hd =>
    have hnone : answer? = none := h
    rw [hnone]
    exact .inl ⟨rfl, rfl, hfound hd⟩
  | missed => exact .inl ⟨rfl, h⟩
  | asked => exact .inr ⟨h, _, rfl, rfl⟩
  | failed answer e he =>
    have hanswer : answer? = some answer := h
    rw [hanswer]
    exact .inl ⟨rfl, he.symm, fun d hd => nomatch hd⟩
  | learned answer d he =>
    have hanswer : answer? = some answer := h
    rw [hanswer]
    exact .inl ⟨rfl, he.symm, hfound (DecimalsCache.get?_insert_self _ _ _)⟩
  | rested => exact .inl ⟨rfl, h⟩

theorem LivePhase.Turned.answered {wanted : Bool} {address : Address} {before after : LivePhase}
    (t : Turned source wanted address v before (after, v')) (h : before.Answered wanted answer?) :
    (v'.fetches = v.fetches ∧ after.Answered wanted answer?) ∨
    (answer? = none ∧ ∃ answer, v'.fetches = v.fetches ++ [⟨.live, address, answer⟩] ∧
      after.Answered wanted (some answer)) := by
  cases t with
  | skipped hw =>
    have hnone : answer? = none := h
    rw [hnone]
    exact .inl ⟨rfl, hw.symm, rfl⟩
  | asked hw => exact .inr ⟨h, _, rfl, hw, rfl⟩
  | heard answer =>
    obtain ⟨hwanted, hanswer⟩ := h
    rw [hanswer]
    exact .inl ⟨rfl, hwanted.symm, rfl⟩
  | rested => exact .inl ⟨rfl, h⟩

end Turned

namespace Race

variable {o : SnapshotOptions} {m : MarketRecord} {w : Workspace σ} {r r' : Race σ}
  {asks : List (Turn × Except FetchError Bytes)}

/-- The requests that a race has made since it was begun in a workspace, in their order and each with
its answer: no request is made twice, and each stands where its own answer puts it. -/
structure Answered (o : SnapshotOptions) (m : MarketRecord) (w : Workspace σ)
    (asks : List (Turn × Except FetchError Bytes)) (r : Race σ) : Prop where
  fetches : r.workspace.fetches = w.fetches ++ asks.map fun a => a.1.fetch m a.2
  nodup : (asks.map Prod.fst).Nodup
  lookups : ∀ role, (r.lookups role).Answered (role.mint m) r.workspace.cache
    (asks.lookup (.lookup role))
  lives : ∀ part, (r.lives part).Answered (o.wants part) (asks.lookup (.live part))

theorem answered_start (w : Workspace σ) : (start w).Answered o m w [] :=
  ⟨(List.append_nil _).symm, List.nodup_nil, fun _ => rfl, fun _ => rfl⟩

section Asks

variable {t : Turn} (answer : Except FetchError Bytes)

theorem lookup_append_self (h : asks.lookup t = none) :
    (asks ++ [(t, answer)]).lookup t = some answer := by
  rw [List.lookup_append, h, Option.none_or, List.lookup_cons_self]

theorem lookup_append_of_ne {t' : Turn} (h : t' ≠ t) :
    (asks ++ [(t, answer)]).lookup t' = asks.lookup t' := by
  rw [List.lookup_append, List.lookup_cons, beq_eq_false_iff_ne.mpr h, List.lookup_nil,
    Option.or_none]

theorem nodup_append_singleton (h : (asks.map Prod.fst).Nodup) (hn : asks.lookup t = none) :
    ((asks ++ [(t, answer)]).map Prod.fst).Nodup := by
  rw [List.map_append]
  refine List.nodup_append.mpr ⟨h, List.nodup_singleton _, ?_⟩
  intro t' ht' t'' ht''
  obtain ⟨a, ha, rfl⟩ := List.mem_map.mp ht'
  have hne := List.lookup_eq_none_iff.mp hn a ha
  rw [List.mem_singleton.mp ht'']
  exact (bne_iff_ne.mp hne).symm

variable (t) in
theorem Answered.fetches_append {v : Workspace σ} (h : r.Answered o m w asks)
    (hv : v.fetches = r.workspace.fetches ++ [t.fetch m answer]) :
    v.fetches = w.fetches ++ (asks ++ [(t, answer)]).map fun a => a.1.fetch m a.2 := by
  rw [hv, h.fetches, List.map_append, List.append_assoc]
  rfl

end Asks

theorem Answered.advanced {e? : Option LookupEvent} (h : r.Answered o m w asks)
    (t : r.Advanced source o m r' e?) : ∃ asks', r'.Answered o m w asks' := by
  cases t with
  | @lookup role phase v t =>
    have hothers (role' : MintRole) : (r.lookups role').Answered (role'.mint m) v.cache
        (asks.lookup (.lookup role')) := (h.lookups role').extends_cache t.cache_extends
    rcases t.answered (h.lookups role) with ⟨hfetches, hphase⟩ | ⟨hnone, answer, hfetches, hphase⟩
    · exact ⟨asks, hfetches.trans h.fetches, h.nodup,
        (Function.forall_update_iff r.lookups fun role phase => phase.Answered (role.mint m) v.cache
          (asks.lookup (.lookup role))).mpr ⟨hphase, fun role' _ => hothers role'⟩, h.lives⟩
    -- The answer is put under the request of this turn, and the others keep theirs.
    · refine ⟨asks ++ [(.lookup role, answer)], h.fetches_append (.lookup role) answer hfetches,
        nodup_append_singleton answer h.nodup hnone,
        (Function.forall_update_iff r.lookups _).mpr ⟨?_, fun role' hrole => ?_⟩, fun part => ?_⟩
      · rw [lookup_append_self answer hnone]
        exact hphase
      · rw [lookup_append_of_ne answer fun h => hrole (Turn.lookup.inj h)]
        exact hothers role'
      · rw [lookup_append_of_ne answer Turn.noConfusion]
        exact h.lives part
  | @live part phase v t =>
    have hlookups (role : MintRole) : (r.lookups role).Answered (role.mint m) v.cache
        (asks.lookup (.lookup role)) := by
      rw [show v.cache = r.workspace.cache from t.cache_eq]
      exact h.lookups role
    rcases t.answered (h.lives part) with ⟨hfetches, hphase⟩ | ⟨hnone, answer, hfetches, hphase⟩
    · exact ⟨asks, hfetches.trans h.fetches, h.nodup, hlookups,
        (Function.forall_update_iff r.lives fun part phase => phase.Answered (o.wants part)
          (asks.lookup (.live part))).mpr ⟨hphase, fun part' _ => h.lives part'⟩⟩
    · refine ⟨asks ++ [(.live part, answer)], h.fetches_append (.live part) answer hfetches,
        nodup_append_singleton answer h.nodup hnone, fun role => ?_,
        (Function.forall_update_iff r.lives _).mpr ⟨?_, fun part' hpart => ?_⟩⟩
      · rw [lookup_append_of_ne answer Turn.noConfusion]
        exact hlookups role
      · rw [lookup_append_self answer hnone]
        exact hphase
      · rw [lookup_append_of_ne answer fun h => hpart (Turn.live.inj h)]
        exact h.lives part'

/-- Whatever the schedule and whatever the source answers, the requests stand by their own answers. -/
theorem exists_answered (source : Source σ) (o : SnapshotOptions) (m : MarketRecord)
    (w : Workspace σ) (schedule : List Turn) :
    ∃ asks, ((start w).run source o m schedule).Answered o m w asks :=
  run_invariant (P := fun r => ∃ asks, r.Answered o m w asks) (fun _ _ _ ⟨_, h⟩ t => h.advanced t)
    ⟨[], answered_start w⟩ schedule

section Gathered

variable {g : Gathered}

theorem Answered.live_of_gathered? (h : r.Answered o m w asks) (hg : r.gathered? = some g)
    (part : LivePart) : (asks.lookup (.live part)).isSome = o.wants part ∧
      part.choose g.bids g.asks g.queue =
        (asks.lookup (.live part)).map fun answer => answer.mapError .fetch := by
  obtain ⟨_, _, hbids, hasks, hqueue⟩ := eq_done_of_gathered? hg
  have hpart := h.lives part
  cases part with
  | bids =>
    rw [hbids] at hpart
    exact hpart
  | asks =>
    rw [hasks] at hpart
    exact hpart
  | queue =>
    rw [hqueue] at hpart
    exact hpart

theorem Answered.errors (h : r.Answered o m w asks) (hg : r.gathered? = some g) :
    g.errors = Turn.failures m asks := by
  obtain ⟨hbase, hquote, _⟩ := eq_done_of_gathered? hg
  have hb := h.lookups .base
  have hq := h.lookups .quote
  rw [hbase] at hb
  rw [hquote] at hq
  have hlive (part : LivePart) : (part.choose g.bids g.asks g.queue).bind errorOf? =
      (asks.lookup (.live part)).bind fun answer => (Turn.live part).failure? m answer := by
    rw [(h.live_of_gathered? hg part).2, Option.bind_map]
    exact congrArg (Option.bind _) (funext fun answer => errorOf?_mapError _ answer)
  -- The five outcomes stand in the order of the requests, each with the error of its own answer.
  have hall : [errorOf? g.baseDecimals, errorOf? g.quoteDecimals, g.bids.bind errorOf?,
      g.asks.bind errorOf?, g.queue.bind errorOf?] =
        Turn.all.map fun t => (asks.lookup t).bind fun answer => t.failure? m answer := by
    rw [hb.1, hq.1]
    exact congrArg _ (congrArg _ (congr (congrArg List.cons (hlive .bids))
      (congr (congrArg List.cons (hlive .asks)) (congrArg (· :: []) (hlive .queue)))))
  rw [Gathered.errors, hall, List.filterMap_map, Turn.failures]
  rfl

/-- If nothing went wrong, each wanted account has come back. -/
theorem Answered.brings (h : r.Answered o m w asks) (hg : r.gathered? = some g)
    (he : g.errors = []) :
    ∃ live : LivePart → Bytes, g.Brings o live ∧
      ∀ part, asks.lookup (.live part) = if o.wants part then some (.ok (live part)) else none := by
  have hnone := List.filterMap_eq_nil_iff.mp he
  have hpart (part : LivePart) : ∃ data, asks.lookup (.live part) =
      if o.wants part then some (.ok data) else none := by
    obtain ⟨hwanted, houtcome⟩ := h.live_of_gathered? hg part
    have herror : (part.choose g.bids g.asks g.queue).bind errorOf? = none := by
      cases part with
      | bids => exact hnone (g.bids.bind errorOf?) (by simp)
      | asks => exact hnone (g.asks.bind errorOf?) (by simp)
      | queue => exact hnone (g.queue.bind errorOf?) (by simp)
    rw [houtcome] at herror
    cases hanswer : asks.lookup (.live part) with
    | none =>
      rw [hanswer] at hwanted
      exact ⟨[], (if_neg (ne_true_of_eq_false hwanted.symm)).symm⟩
    | some answer =>
      rw [hanswer] at hwanted herror
      cases answer with
      | error e => exact nomatch herror
      | ok data => exact ⟨data, (if_pos hwanted.symm).symm⟩
  obtain ⟨live, hlive⟩ := Classical.skolem.mp hpart
  have hbrings (part : LivePart) : (part.choose g.bids g.asks g.queue).bind valueOf? =
      if o.wants part then some (live part) else none := by
    rw [(h.live_of_gathered? hg part).2, hlive part]
    cases o.wants part <;> rfl
  exact ⟨live, ⟨hbrings .bids, hbrings .asks, hbrings .queue⟩, hlive⟩

/-- The live parts whose accounts were asked for are the wanted ones, each once. -/
theorem Answered.asked_perm (h : r.Answered o m w asks)
    (hwanted : ∀ part, (asks.lookup (.live part)).isSome = o.wants part) :
    ((asks.map Prod.fst).filterMap Turn.part?).Perm o.parts := by
  have hnodup : ((asks.map Prod.fst).filterMap Turn.part?).Nodup := by
    apply h.nodup.filterMap
    intro t t' part ht ht'
    rw [Turn.part?_eq_some_iff.mp ht, Turn.part?_eq_some_iff.mp ht']
  -- Neither list holds a part twice, so it is enough that they hold the same parts.
  refine (List.perm_ext_iff_of_nodup hnodup o.nodup_parts).mpr fun part => ?_
  rw [o.mem_parts_iff, ← hwanted part, List.mem_filterMap]
  constructor
  · rintro ⟨t, ht, hpart⟩
    rw [Turn.part?_eq_some_iff.mp hpart] at ht
    obtain ⟨a, ha, hturn⟩ := List.mem_map.mp ht
    rw [← hturn, (lookup_eq_some_iff_mem h.nodup a.1 a.2).mpr ha]
    rfl
  · intro hsome
    obtain ⟨answer, hanswer⟩ := Option.isSome_iff_exists.mp hsome
    exact ⟨.live part, List.mem_map_of_mem ((lookup_eq_some_iff_mem h.nodup _ _).mp hanswer), rfl⟩

/-- The accounts of the wanted parts, each once, are all that was fetched for live parts. -/
theorem Answered.since_live (h : r.Answered o m w asks) {live : LivePart → Bytes}
    (hlive : ∀ part, asks.lookup (.live part) =
      if o.wants part then some (.ok (live part)) else none) :
    ∃ asked : List LivePart, asked.Perm o.parts ∧
      w.since r.workspace .live = asked.map fun p => ⟨.live, p.address m, .ok (live p)⟩ := by
  have hwanted (part : LivePart) : (asks.lookup (.live part)).isSome = o.wants part := by
    rw [hlive part]
    cases o.wants part <;> rfl
  refine ⟨_, h.asked_perm hwanted, ?_⟩
  rw [Workspace.since_of_append h.fetches, ← List.filterMap_eq_filter, List.filterMap_map,
    List.filterMap_map, List.map_filterMap]
  apply List.filterMap_congr
  rintro ⟨t, answer⟩ ha
  cases t with
  | lookup role => rfl
  | live part =>
    -- Its answer is the one that came back for the part.
    have hanswer := (lookup_eq_some_iff_mem h.nodup (.live part) answer).mpr ha
    have hpart : o.wants part = true := by
      rw [← hwanted part, hanswer]
      rfl
    rw [hlive part, if_pos hpart] at hanswer
    rw [← Option.some.inj hanswer]
    rfl

/-- The decimals that were found are in the cache. -/
theorem Answered.decimals (h : r.Answered o m w asks) (hg : r.gathered? = some g) (d : UInt8) :
    (g.baseDecimals = .ok d → r.workspace.cache.get? m.baseMint = some d) ∧
      (g.quoteDecimals = .ok d → r.workspace.cache.get? m.quoteMint = some d) := by
  obtain ⟨hbase, hquote, _⟩ := eq_done_of_gathered? hg
  have hb := h.lookups .base
  have hq := h.lookups .quote
  rw [hbase] at hb
  rw [hquote] at hq
  exact ⟨hb.2 d, hq.2 d⟩

end Gathered

end Race

end SerumDex
