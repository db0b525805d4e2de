import SerumDex.Proofs.Race

namespace SerumDex

variable {σ : Type} {source : Source σ}

theorem lookup_eq_some_iff_mem {α β : Type} [DecidableEq α] {l : List (α × β)}
    (hl : (l.map Prod.fst).Nodup) (a : α) (b : β) : l.lookup a = some b ↔ (a, b) ∈ l := by
  constructor
  · intro h
    obtain ⟨front, back, he, _⟩ := List.lookup_eq_some_iff.mp h
    rw [he]
    exact List.mem_append_right _ List.mem_cons_self
  · intro h
    obtain ⟨front, back, rfl⟩ := List.append_of_mem h
    rw [List.map_append, List.map_cons] at hl
    -- The key stands nowhere before its only entry.
    have hfront : ∀ p ∈ front, (a != p.1) = true := by
      intro p hp
      have hne := (List.nodup_append.mp hl).2.2 p.1 (List.mem_map_of_mem hp) a List.mem_cons_self
      exact bne_iff_ne.mpr hne.symm
    exact List.lookup_eq_some_iff.mpr ⟨front, back, rfl, hfront⟩

/-- An answer makes an error or brings decimals, and not both. -/
theorem mintFailure?_or_decimals? (mint : Address) (answer : Except FetchError Bytes) :
    (∃ e, mintFailure? mint answer = some e ∧
      (Fetch.mk .decimals mint answer).decimals? = none) ∨
    (∃ d, mintFailure? mint answer = none ∧
      (Fetch.mk .decimals mint answer).decimals? = some d) := by
  cases answer with
  | error e => exact .inl ⟨_, rfl, rfl⟩
  | ok data =>
    cases hdecode : decodeMint mint data with
    | error e =>
      refine .inl ⟨.lookup mint e.message, ?_, ?_⟩
      · simp only [mintFailure?, hdecode, errorOf?, Option.map_some]
      · simp only [Fetch.decimals?, hdecode, valueOf?, Option.map_none]
    | ok decoded =>
      refine .inr ⟨decoded.decimals, ?_, ?_⟩
      · simp only [mintFailure?, hdecode, errorOf?, Option.map_none]
      · simp only [Fetch.decimals?, hdecode, valueOf?, Option.map_some]

section Finish

variable {mint : Address} {answer : Except FetchError Bytes}

theorem finishLookup_of_failure {e : SnapshotError} (h : mintFailure? mint answer = some e)
    (cache : DecimalsCache) : finishLookup mint answer cache = (.error e, cache) := by
  cases answer with
  | error fetchError =>
    rw [← Option.some.inj h]
    rfl
  | ok data =>
    cases hdecode : decodeMint mint data with
    | error decodeError =>
      simp only [mintFailure?, hdecode, errorOf?, Option.map_some] at h
      simp only [finishLookup, hdecode, ← Option.some.inj h]
    | ok decoded =>
      simp only [mintFailure?, hdecode, errorOf?, Option.map_none, reduceCtorEq] at h

theorem finishLookup_of_decimals {d : UInt8}
    (h : (Fetch.mk .decimals mint answer).decimals? = some d) (cache : DecimalsCache) :
    finishLookup mint answer cache = (.ok (cache.insert mint d).1, (cache.insert mint d).2) := by
  cases answer with
  | error fetchError => exact nomatch h
  | ok data =>
    cases hdecode : decodeMint mint data with
    | error decodeError =>
      simp only [Fetch.decimals?, hdecode, valueOf?, Option.map_none, reduceCtorEq] at h
    | ok decoded =>
      simp only [Fetch.decimals?, hdecode, valueOf?, Option.map_some] at h
      simp only [finishLookup, hdecode, ← Option.some.inj h]

end Finish

namespace LookupPhase

variable {mint : Address} {v : Workspace σ}

theorem next_idle_run (v : Workspace σ) :
    (idle.next source mint).run v =
      match startLookup mint v.cache with
      | (.known d, cache) => (done (.ok d), { v with cache := cache })
      | (.cached d, cache) =>
        (done (.ok d), { v with cache := cache, log := v.log ++ [cacheHit mint d] })
      | (.missing, cache) =>
        (missed, { v with cache := cache, log := v.log ++ [cacheMiss mint] }) := by
  rcases hstart : startLookup mint v.cache with ⟨start, cache⟩
  have hupdate : (Step.updateCache (startLookup mint)).run v =
      (start, { v with cache := cache }) := by
    change ((startLookup mint v.cache).1, { v with cache := (startLookup mint v.cache).2 }) = _
    rw [hstart]
  rw [next, Step.run_bind, hupdate]
  cases start <;> rfl

/-- All that a turn can do to a lookup and to the workspace. -/
inductive Turned (source : Source σ) (mint : Address) (v : Workspace σ) :
    LookupPhase → LookupPhase × Workspace σ → Prop
  | wrappedSol (hm : mint = Address.wrappedSol) :
      Turned source mint v idle (done (.ok (v.cache.insert mint wrappedSolDecimals).1),
        { v with cache := (v.cache.insert mint wrappedSolDecimals).2 })
  | cached (hm : mint ≠ Address.wrappedSol) (d : UInt8) (hd : v.cache.get? mint = some d) :
      Turned source mint v idle
        (done (.ok d), { v with log := v.log ++ [cacheHit mint d] })
  | missed (hm : mint ≠ Address.wrappedSol) (hn : v.cache.get? mint = none) :
      Turned source mint v idle (missed, { v with log := v.log ++ [cacheMiss mint] })
  | asked : Turned source mint v missed
      (asked (source mint v.source).1, ((Step.ask source .decimals mint).run v).2)
  /-- Nothing, or no mint, came back. -/
  | failed (answer : Except FetchError Bytes) (e : SnapshotError)
      (he : mintFailure? mint answer = some e)
      (hn : (Fetch.mk .decimals mint answer).decimals? = none) :
      Turned source mint v (asked answer) (done (.error e), v)
  /-- The first value under a mint stays, whatever comes back later. -/
  | learned (answer : Except FetchError Bytes) (d : UInt8) (he : mintFailure? mint answer = none)
      (hd : (Fetch.mk .decimals mint answer).decimals? = some d) :
      Turned source mint v (asked answer) (done (.ok (v.cache.insert mint d).1),
        { v with cache := (v.cache.insert mint d).2 })
  | rested (outcome : Except SnapshotError UInt8) :
      Turned source mint v (done outcome) (done outcome, v)

theorem next_turned (source : Source σ) (mint : Address) (phase : LookupPhase)
    (v : Workspace σ) : Turned source mint v phase ((phase.next source mint).run v) := by
  cases phase with
  | idle =>
    rw [next_idle_run]
    by_cases hm : mint = Address.wrappedSol
    · rw [hm, startLookup_wrappedSol]
      exact .wrappedSol rfl
    rw [startLookup_of_ne hm]
    cases hd : v.cache.get? mint with
    | some d => exact .cached hm d hd
    | none => exact .missed hm hd
  | missed => exact .asked
  | asked answer =>
    have hrun : ((asked answer).next source mint).run v =
        (done (finishLookup mint answer v.cache).1,
          { v with cache := (finishLookup mint answer v.cache).2 }) := rfl
    rw [hrun]
    rcases mintFailure?_or_decimals? mint answer with ⟨e, he, hn⟩ | ⟨d, he, hd⟩
    · rw [finishLookup_of_failure he]
      exact .failed answer e he hn
    · rw [finishLookup_of_decimals hd]
      exact .learned answer d he hd
  | done outcome => exact .rested outcome

theorem Turned.cache_extends {phase : LookupPhase} {out : LookupPhase × Workspace σ}
    (h : Turned source mint v phase out) : v.cache.Extends out.2.cache := by
  cases h with
  | wrappedSol => exact DecimalsCache.extends_insert _ _ _
  | cached => exact DecimalsCache.Extends.refl _
  | missed => exact DecimalsCache.Extends.refl _
  | asked => exact DecimalsCache.Extends.refl _
  | failed => exact DecimalsCache.Extends.refl _
  | learned => exact DecimalsCache.extends_insert _ _ _
  | rested => exact DecimalsCache.Extends.refl _

end LookupPhase

/-- All that a turn can do to the fetch of a live part and to the workspace. -/
inductive LivePhase.Turned (source : Source σ) (wanted : Bool) (address : Address)
    (v : Workspace σ) : LivePhase → LivePhase × Workspace σ → Prop
  | skipped (hw : wanted = false) : Turned source wanted address v idle (done none, v)
  | asked (hw : wanted = true) : Turned source wanted address v idle
      (asked (source address v.source).1, ((Step.ask source .live address).run v).2)
  | heard (answer : Except FetchError Bytes) : Turned source wanted address v (asked answer)
      (done (some (answer.mapError .fetch)), v)
  | rested (outcome : Option (Except SnapshotError Bytes)) :
      Turned source wanted address v (done outcome) (done outcome, v)

theorem LivePhase.next_turned (source : Source σ) (wanted : Bool) (address : Address)
    (phase : LivePhase) (v : Workspace σ) :
    Turned source wanted address v phase ((phase.next source wanted address).run v) := by
  cases phase with
  | idle =>
    cases wanted with
    | false => exact .skipped rfl
    | true => exact .asked rfl
  | asked answer => exact .heard answer
  | done outcome => exact .rested outcome

theorem LivePhase.Turned.cache_eq {wanted : Bool} {address : Address} {v : Workspace σ}
    {phase : LivePhase} {out : LivePhase × Workspace σ}
    (h : Turned source wanted address v phase out) : out.2.cache = v.cache := by
  cases h <;> rfl

/-- What can be seen of a lookup: it has not found its mint in the cache, its fetch is made, or the
answer to its fetch is taken. -/
inductive LookupEvent where
  | missed (mint : Address)
  | asked (f : Fetch)
  | heard (f : Fetch)

/-- What is seen of a lookup that goes from one phase to another. -/
def LookupPhase.event? (mint : Address) : LookupPhase → LookupPhase → Option LookupEvent
  | idle, missed => some (.missed mint)
  | missed, asked answer => some (.asked ⟨.decimals, mint, answer⟩)
  | asked answer, done _ => some (.heard ⟨.decimals, mint, answer⟩)
  | _, _ => none

namespace Race

variable {o : SnapshotOptions} {m : MarketRecord} {r r' : Race σ}

def event? (m : MarketRecord) (r r' : Race σ) : Turn → Option LookupEvent
  | .lookup role => LookupPhase.event? (role.mint m) (r.lookups role) (r'.lookups role)
  | .live _ => none

/-- What is seen of the lookups while the requests take their steps. -/
def events (source : Source σ) (o : SnapshotOptions) (m : MarketRecord) :
    Race σ → List Turn → List LookupEvent
  | _, [] => []
  | r, t :: schedule =>
    let r' := r.advance source o m t
    (r.event? m r' t).toList ++ events source o m r' schedule

/-- All that a turn can do to a race, with what is seen of it. -/
inductive Advanced (source : Source σ) (o : SnapshotOptions) (m : MarketRecord) (r : Race σ) :
    Race σ → Option LookupEvent → Prop
  | lookup (role : MintRole) {phase : LookupPhase} {w : Workspace σ}
      (h : LookupPhase.Turned source (role.mint m) r.workspace (r.lookups role) (phase, w)) :
      Advanced source o m r ⟨w, Function.update r.lookups role phase, r.lives⟩
        (LookupPhase.event? (role.mint m) (r.lookups role) phase)
  | live (part : LivePart) {phase : LivePhase} {w : Workspace σ}
      (h : LivePhase.Turned source (o.wants part) (part.address m) r.workspace (r.lives part)
        (phase, w)) :
      Advanced source o m r ⟨w, r.lookups, Function.update r.lives part phase⟩ none

theorem advance_advanced (source : Source σ) (o : SnapshotOptions) (m : MarketRecord)
    (r : Race σ) (t : Turn) :
    r.Advanced source o m (r.advance source o m t) (r.event? m (r.advance source o m t) t) := by
  cases t with
  | lookup role =>
    have hevent : r.event? m (r.advance source o m (.lookup role)) (.lookup role) =
        LookupPhase.event? (role.mint m) (r.lookups role)
          (((r.lookups role).next source (role.mint m)).run r.workspace).1 := by
      simp only [event?, advance, Function.update_self]
    rw [hevent]
    exact .lookup role (LookupPhase.next_turned source (role.mint m) (r.lookups role) r.workspace)
  | live part =>
    exact .live part (LivePhase.next_turned source (o.wants part) (part.address m) (r.lives part)
      r.workspace)

theorem run_cons (r : Race σ) (t : Turn) (schedule : List Turn) :
    r.run source o m (t :: schedule) = (r.advance source o m t).run source o m schedule := rfl

/-- What every turn keeps, with what is seen of it, holds along every schedule. -/
theorem run_induction {P : Race σ → List LookupEvent → Prop}
    (step : ∀ r es r' e?, P r es → r.Advanced source o m r' e? → P r' (es ++ e?.toList))
    {es : List LookupEvent} (h : P r es) (schedule : List Turn) :
    P (r.run source o m schedule) (es ++ r.events source o m schedule) := by
  -- What was seen before the turns that are left is carried along.
  induction schedule generalizing r es with
  | nil =>
    rw [events, List.append_nil]
    exact h
  | cons t schedule ih =>
    have hnext := step r es _ _ h (r.advance_advanced source o m t)
    rw [events, run_cons, ← List.append_assoc]
    exact ih hnext

theorem run_invariant {P : Race σ → Prop}
    (step : ∀ r r' e?, P r → r.Advanced source o m r' e? → P r') (h : P r) (schedule : List Turn) :
    P (r.run source o m schedule) := by
  induction schedule generalizing r with
  | nil => exact h
  | cons t schedule ih => exact ih (step r _ _ h (r.advance_advanced source o m t))

end Race

end SerumDex
