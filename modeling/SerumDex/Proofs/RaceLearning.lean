import SerumDex.Proofs.RaceCalls

namespace SerumDex

variable {σ : Type} {source : Source σ}

/-- What the first mint that came back for an address says, of all answers that were taken. -/
def firstDecimals (answers : List Fetch) (mint : Address) : Option UInt8 :=
  answers.findSome? fun f => if f.address = mint then f.decimals? else none

/-- The decimals that all builders use: nine for wrapped SOL, and for any other mint what the first
answer that decoded said. -/
def knownDecimals (answers : List Fetch) (mint : Address) : Option UInt8 :=
  if mint = Address.wrappedSol then some wrappedSolDecimals else firstDecimals answers mint

section Answers

variable {answers : List Fetch} {f : Fetch} {mint : Address} {d : UInt8}

theorem firstDecimals_append_of_some (h : firstDecimals answers mint = some d) (fs : List Fetch) :
    firstDecimals (answers ++ fs) mint = some d := by
  rw [firstDecimals] at h
  rw [firstDecimals, List.findSome?_append, h, Option.some_or]

theorem firstDecimals_append_singleton (answers : List Fetch) (f : Fetch) (mint : Address) :
    firstDecimals (answers ++ [f]) mint =
      (firstDecimals answers mint).or (if f.address = mint then f.decimals? else none) := by
  rw [firstDecimals, List.findSome?_append, List.findSome?_singleton]
  rfl

theorem firstDecimals_append_of_none (answers : List Fetch) (h : f.decimals? = none)
    (mint : Address) : firstDecimals (answers ++ [f]) mint = firstDecimals answers mint := by
  rw [firstDecimals_append_singleton, h, ite_self, Option.or_none]

theorem knownDecimals_append (h : knownDecimals answers mint = some d) (fs : List Fetch) :
    knownDecimals (answers ++ fs) mint = some d := by
  unfold knownDecimals at *
  by_cases hm : mint = Address.wrappedSol
  · rwa [if_pos hm] at *
  · rw [if_neg hm] at *
    exact firstDecimals_append_of_some h fs

theorem knownDecimals_of_ne (hm : mint ≠ Address.wrappedSol) :
    knownDecimals answers mint = firstDecimals answers mint := by
  rw [knownDecimals, if_neg hm]

end Answers

/-- What has become of a cache by the answers that were taken since. -/
structure Learnt (c₀ : DecimalsCache) (answers : List Fetch) (cache : DecimalsCache) : Prop where
  /-- Every entry is still there, unchanged. -/
  kept : c₀.Extends cache
  /-- A new entry is wrapped SOL with nine, or a mint with what its first answer said. -/
  new : ∀ e ∈ cache.entries,
    e ∈ c₀.entries ∨ c₀.get? e.1 = none ∧ knownDecimals answers e.1 = some e.2
  /-- Every mint that an answer decoded for is entered with it. -/
  entered : ∀ mint d, firstDecimals answers mint = some d → cache.get? mint = some d

namespace Learnt

variable {c₀ cache : DecimalsCache} {answers : List Fetch} {f : Fetch} {mint : Address} {d : UInt8}

theorem refl (c₀ : DecimalsCache) : Learnt c₀ [] c₀ where
  kept := DecimalsCache.Extends.refl c₀
  new _ he := .inl he
  entered _ _ hd := nomatch hd

theorem unknown (h : Learnt c₀ answers cache) (hn : cache.get? mint = none) :
    c₀.get? mint = none ∧ firstDecimals answers mint = none := by
  constructor
  · cases hd : c₀.get? mint with
    | none => rfl
    | some d => exact nomatch hn.symm.trans (h.kept.get? hd)
  · cases hd : firstDecimals answers mint with
    | none => rfl
    | some d => exact nomatch hn.symm.trans (h.entered mint d hd)

theorem known_of_get? (h : Learnt c₀ answers cache) (hn : c₀.get? mint = none)
    (hd : cache.get? mint = some d) : knownDecimals answers mint = some d := by
  rcases h.new (mint, d) (DecimalsCache.mem_of_get? hd) with hold | ⟨_, hknown⟩
  · have hne := List.lookup_eq_none_iff.mp hn (mint, d) hold
    exact absurd rfl (bne_iff_ne.mp hne)
  · exact hknown

/-- An answer that no mint came back with teaches nothing. -/
theorem failed (h : Learnt c₀ answers cache) (hf : f.decimals? = none) :
    Learnt c₀ (answers ++ [f]) cache where
  kept := h.kept
  new e he := (h.new e he).imp_right fun ⟨hn, hknown⟩ => ⟨hn, knownDecimals_append hknown [f]⟩
  entered mint d hd := by
    rw [firstDecimals_append_of_none _ hf] at hd
    exact h.entered mint d hd

theorem wrappedSol (h : Learnt c₀ answers cache) :
    Learnt c₀ answers (cache.insert Address.wrappedSol wrappedSolDecimals).2 := by
  refine ⟨h.kept.trans (DecimalsCache.extends_insert _ _ _), ?_, fun mint d hd =>
    DecimalsCache.get?_insert_of_some _ _ _ _ _ (h.entered mint d hd)⟩
  cases hc : cache.get? Address.wrappedSol with
  | some kept =>
    rw [DecimalsCache.insert_of_some hc]
    exact h.new
  | none =>
    rw [DecimalsCache.insert_of_none hc]
    intro e he
    rcases List.mem_append.mp he with hold | hnew
    · exact h.new e hold
    · rw [List.mem_singleton.mp hnew]
      exact .inr ⟨(h.unknown hc).1, if_pos rfl⟩

/-- An answer for a mint that was unknown at first is entered, unless another one was before. -/
theorem learned (h : Learnt c₀ answers cache) (hm : f.address ≠ Address.wrappedSol)
    (hn : c₀.get? f.address = none) (hf : f.decimals? = some d) :
    Learnt c₀ (answers ++ [f]) (cache.insert f.address d).2 := by
  cases hc : cache.get? f.address with
  | some kept =>
    -- Another answer for the mint was taken before, and it stays the first one.
    have hfirst := h.known_of_get? hn hc
    rw [knownDecimals_of_ne hm] at hfirst
    rw [DecimalsCache.insert_of_some hc]
    refine ⟨h.kept, fun e he => (h.new e he).imp_right fun ⟨hn, hknown⟩ =>
      ⟨hn, knownDecimals_append hknown [f]⟩, fun mint d' hd' => ?_⟩
    by_cases hmint : f.address = mint
    · rw [← hmint, firstDecimals_append_of_some hfirst] at hd'
      rw [← hmint, hc, ← hd']
    · rw [firstDecimals_append_singleton, if_neg hmint, Option.or_none] at hd'
      exact h.entered mint d' hd'
  | none =>
    -- No answer for the mint was taken before, so this is the first one.
    have hfirst := (h.unknown hc).2
    rw [DecimalsCache.insert_of_none hc]
    refine ⟨h.kept.trans (List.prefix_append _ _), fun e he => ?_, fun mint d' hd' => ?_⟩
    · rcases List.mem_append.mp he with hold | hnew
      · exact (h.new e hold).imp_right fun ⟨hn, hknown⟩ => ⟨hn, knownDecimals_append hknown [f]⟩
      · rw [List.mem_singleton.mp hnew, knownDecimals_of_ne hm, firstDecimals_append_singleton,
          hfirst, if_pos rfl, hf]
        exact .inr ⟨hn, rfl⟩
    · by_cases hmint : f.address = mint
      · rw [← hmint, firstDecimals_append_singleton, hfirst, if_pos rfl, hf] at hd'
        rw [← hmint, ← hd']
        exact DecimalsCache.get?_append_self hc d
      · rw [firstDecimals_append_singleton, if_neg hmint, Option.or_none] at hd'
        have hgrow : cache.Extends ⟨cache.entries ++ [(f.address, d)]⟩ := List.prefix_append _ _
        exact hgrow.get? (h.entered mint d' hd')

end Learnt

namespace LookupEvent

def asked? : LookupEvent → Option Fetch
  | asked f => some f
  | _ => none

def heard? : LookupEvent → Option Fetch
  | heard f => some f
  | _ => none

end LookupEvent

/-- The answers that were taken, in the order in which they were. -/
def answersOf (events : List LookupEvent) : List Fetch := events.filterMap LookupEvent.heard?

/-- The fetches that were made, in their order. -/
def asksOf (events : List LookupEvent) : List Fetch := events.filterMap LookupEvent.asked?

theorem answersOf_append (events later : List LookupEvent) :
    answersOf (events ++ later) = answersOf events ++ answersOf later := List.filterMap_append

theorem Learnt.quiet {c₀ cache : DecimalsCache} {events : List LookupEvent}
    {e? : Option LookupEvent} (h : Learnt c₀ (answersOf events) cache)
    (he : e?.bind LookupEvent.heard? = none) :
    Learnt c₀ (answersOf (events ++ e?.toList)) cache := by
  have hsame : answersOf (events ++ e?.toList) = answersOf events := by
    cases e? with
    | none => rw [Option.toList_none, List.append_nil]
    | some e =>
      have hnone : answersOf [e] = [] := by
        rw [answersOf, List.filterMap_cons, show e.heard? = none from he, List.filterMap_nil]
      rw [answersOf_append, Option.toList_some, hnone, List.append_nil]
  rwa [hsame]

/-- What has come before an event: a mint is looked up in vain only before its first answer, it is
fetched only after that, and an answer is taken only after its fetch. Wrapped SOL is never fetched. -/
def LookupEvent.Warranted (before : List LookupEvent) : LookupEvent → Prop
  | missed mint => mint ≠ Address.wrappedSol ∧ firstDecimals (answersOf before) mint = none
  | asked f => f.address ≠ Address.wrappedSol ∧ .missed f.address ∈ before
  | heard f => .asked f ∈ before

/-- A fetch comes before the first answer for its mint. -/
def LookupEvent.Timely (before : List LookupEvent) : LookupEvent → Prop
  | asked f => firstDecimals (answersOf before) f.address = none
  | _ => True

/-- Every event is as it should be in the light of those before it. -/
def EachAfter (P : List LookupEvent → LookupEvent → Prop) (events : List LookupEvent) : Prop :=
  ∀ before e after, events = before ++ e :: after → P before e

section EachAfter

variable {P : List LookupEvent → LookupEvent → Prop} {events : List LookupEvent}

theorem eachAfter_nil : EachAfter P [] := by
  intro before e after h
  exact absurd h.symm (List.append_ne_nil_of_right_ne_nil before (List.cons_ne_nil e after))

theorem eq_of_append_singleton {α : Type} {xs before after : List α} {x y : α}
    (h : xs ++ [x] = before ++ y :: after) :
    (before = xs ∧ y = x) ∨ ∃ rest, xs = before ++ y :: rest := by
  rcases List.eq_nil_or_concat after with rfl | ⟨rest, z, rfl⟩
  · obtain ⟨hxs, hx⟩ := List.append_inj' h rfl
    exact .inl ⟨hxs.symm, (List.singleton_inj.mp hx).symm⟩
  · rw [List.concat_eq_append, ← List.cons_append, ← List.append_assoc] at h
    exact .inr ⟨rest, (List.append_inj' h rfl).1⟩

theorem EachAfter.append {e? : Option LookupEvent} (h : EachAfter P events)
    (he : ∀ e ∈ e?, P events e) : EachAfter P (events ++ e?.toList) := by
  cases e? with
  | none =>
    rw [Option.toList_none, List.append_nil]
    exact h
  | some e =>
    intro before e' after hsplit
    rcases eq_of_append_singleton hsplit with ⟨rfl, rfl⟩ | ⟨rest, hrest⟩
    · exact he _ rfl
    · exact h before e' rest hrest

end EachAfter

/-- Where a lookup stands, in the light of what has been seen: it fetches only a mint that was unknown
at first, and it takes the answer to its own fetch. -/
def LookupPhase.Begun (c₀ : DecimalsCache) (mint : Address) (events : List LookupEvent) :
    LookupPhase → Prop
  | idle => True
  | missed => mint ≠ Address.wrappedSol ∧ c₀.get? mint = none ∧ .missed mint ∈ events
  | asked answer => mint ≠ Address.wrappedSol ∧ c₀.get? mint = none ∧
      .asked ⟨.decimals, mint, answer⟩ ∈ events
  | done _ => True

theorem LookupPhase.Begun.append {c₀ : DecimalsCache} {mint : Address}
    {events : List LookupEvent} {phase : LookupPhase} (h : phase.Begun c₀ mint events)
    (later : List LookupEvent) : phase.Begun c₀ mint (events ++ later) := by
  cases phase with
  | idle => exact h
  | missed => exact ⟨h.1, h.2.1, List.mem_append_left _ h.2.2⟩
  | asked answer => exact ⟨h.1, h.2.1, List.mem_append_left _ h.2.2⟩
  | done outcome => exact h

/-- A turn of a lookup teaches what the answer says that it takes, and it is warranted by what has
been seen. -/
theorem LookupPhase.Turned.learns {c₀ : DecimalsCache} {mint : Address} {v v' : Workspace σ}
    {before after : LookupPhase} {events : List LookupEvent}
    (t : Turned source mint v before (after, v')) (hc : Learnt c₀ (answersOf events) v.cache)
    (hb : before.Begun c₀ mint events) :
    Learnt c₀ (answersOf (events ++ (before.event? mint after).toList)) v'.cache ∧
      after.Begun c₀ mint (events ++ (before.event? mint after).toList) ∧
      ∀ e ∈ before.event? mint after, e.Warranted events := by
  have hheard (f : Fetch) : answersOf (events ++ [.heard f]) = answersOf events ++ [f] :=
    answersOf_append events _
  cases t with
  | wrappedSol hm =>
    subst hm
    exact ⟨hc.wrappedSol.quiet rfl, trivial, fun e he => nomatch he⟩
  | cached hm d hd => exact ⟨hc.quiet rfl, trivial, fun e he => nomatch he⟩
  | missed hm hn =>
    obtain ⟨hc₀, hfirst⟩ := hc.unknown hn
    refine ⟨hc.quiet rfl, ⟨hm, hc₀, List.mem_append_right _ (List.mem_singleton_self _)⟩, ?_⟩
    intro e he
    rw [← Option.some.inj he]
    exact ⟨hm, hfirst⟩
  | asked =>
    obtain ⟨hm, hn, hmissed⟩ := hb
    refine ⟨hc.quiet rfl, ⟨hm, hn, List.mem_append_right _ (List.mem_singleton_self _)⟩, ?_⟩
    intro e he
    rw [← Option.some.inj he]
    exact ⟨hm, hmissed⟩
  | failed answer e he hd =>
    obtain ⟨_, _, hasked⟩ := hb
    refine ⟨?_, trivial, ?_⟩
    · exact (hheard ⟨.decimals, mint, answer⟩).symm ▸ hc.failed hd
    · intro e he
      rw [← Option.some.inj he]
      exact hasked
  | learned answer d he hd =>
    obtain ⟨hm, hn, hasked⟩ := hb
    refine ⟨?_, trivial, ?_⟩
    · exact (hheard ⟨.decimals, mint, answer⟩).symm ▸
        hc.learned (f := ⟨.decimals, mint, answer⟩) hm hn hd
    · intro e he
      rw [← Option.some.inj he]
      exact hasked
  | rested outcome => exact ⟨hc.quiet rfl, trivial, fun e he => nomatch he⟩

namespace Race

variable {o : SnapshotOptions} {m : MarketRecord} {r r' : Race σ} {c₀ : DecimalsCache}
  {events : List LookupEvent}

/-- What holds of the cache and of all lookups in the midst of a race, given what has been seen. -/
structure Learns (c₀ : DecimalsCache) (m : MarketRecord) (r : Race σ) (events : List LookupEvent) :
    Prop where
  learnt : Learnt c₀ (answersOf events) r.workspace.cache
  warranted : EachAfter LookupEvent.Warranted events
  begun : ∀ role, (r.lookups role).Begun c₀ (role.mint m) events

theorem Learns.advanced {e? : Option LookupEvent} (h : r.Learns c₀ m events)
    (t : r.Advanced source o m r' e?) : r'.Learns c₀ m (events ++ e?.toList) := by
  cases t with
  | lookup role t =>
    obtain ⟨hlearnt, hbegun, hwarranted⟩ := t.learns h.learnt (h.begun role)
    exact ⟨hlearnt, h.warranted.append hwarranted, (Function.forall_update_iff r.lookups _).mpr
      ⟨hbegun, fun role' _ => (h.begun role').append _⟩⟩
  | live part t =>
    rw [Option.toList_none, List.append_nil]
    refine ⟨?_, h.warranted, h.begun⟩
    rw [show _ = r.workspace.cache from t.cache_eq]
    exact h.learnt

theorem Learns.run (h : r.Learns c₀ m events) (schedule : List Turn) :
    (r.run source o m schedule).Learns c₀ m (events ++ r.events source o m schedule) :=
  run_induction (P := fun r events => r.Learns c₀ m events) (fun _ _ _ _ h t => h.advanced t) h
    schedule

theorem learns_start {w : Workspace σ} (h : Learnt c₀ (answersOf events) w.cache)
    (hw : EachAfter LookupEvent.Warranted events) : (start w).Learns c₀ m events :=
  ⟨h, hw, fun _ => trivial⟩

end Race

section Polls

/-- A poll of a lookup that does not wait in between is in time with its fetch. -/
theorem LookupPhase.Turned.timely {c₀ : DecimalsCache} {mint : Address} {v v₁ v₂ : Workspace σ}
    {before mid after : LookupPhase} {events : List LookupEvent}
    (t₁ : Turned source mint v before (mid, v₁)) (t₂ : Turned source mint v₁ mid (after, v₂))
    (hb : before ≠ .missed) (hc : Learnt c₀ (answersOf events) v.cache)
    (h : EachAfter LookupEvent.Timely events) :
    after ≠ .missed ∧ EachAfter LookupEvent.Timely
      (events ++ (before.event? mint mid).toList ++ (mid.event? mint after).toList) := by
  have hquiet {e? : Option LookupEvent} (he : e?.bind LookupEvent.asked? = none)
      {events : List LookupEvent} (h : EachAfter LookupEvent.Timely events) :
      EachAfter LookupEvent.Timely (events ++ e?.toList) := by
    apply h.append
    intro e hmem
    cases e with
    | missed mint => trivial
    | asked f =>
      rw [show e? = some (.asked f) from hmem] at he
      exact nomatch he
    | heard f => trivial
  cases t₁ with
  | wrappedSol =>
    cases t₂
    exact ⟨LookupPhase.noConfusion, hquiet rfl (hquiet rfl h)⟩
  | cached =>
    cases t₂
    exact ⟨LookupPhase.noConfusion, hquiet rfl (hquiet rfl h)⟩
  | missed hm hn =>
    -- The fetch follows the miss with nothing in between, when there was no answer yet.
    cases t₂
    refine ⟨LookupPhase.noConfusion, (hquiet rfl h).append ?_⟩
    intro e he
    rw [← Option.some.inj he]
    have hanswers : answersOf (events ++ [.missed mint]) = answersOf events := by
      rw [answersOf_append]
      exact List.append_nil _
    change firstDecimals (answersOf (events ++ [.missed mint])) mint = none
    rw [hanswers]
    exact (hc.unknown hn).2
  -- A lookup that has missed before the poll is excluded: only such a one could fetch late.
  | asked => exact absurd rfl hb
  | failed =>
    cases t₂
    exact ⟨LookupPhase.noConfusion, hquiet rfl (hquiet rfl h)⟩
  | learned =>
    cases t₂
    exact ⟨LookupPhase.noConfusion, hquiet rfl (hquiet rfl h)⟩
  | rested =>
    cases t₂
    exact ⟨LookupPhase.noConfusion, hquiet rfl (hquiet rfl h)⟩

namespace Race

variable {o : SnapshotOptions} {m : MarketRecord} {r : Race σ} {c₀ : DecimalsCache}
  {seen : List LookupEvent}

theorem events_append (r : Race σ) (schedule later : List Turn) :
    r.events source o m (schedule ++ later) =
      r.events source o m schedule ++ (r.run source o m schedule).events source o m later := by
  induction schedule generalizing r with
  | nil => rfl
  | cons t schedule ih =>
    rw [List.cons_append, Race.events, Race.events, ih, run_cons, List.append_assoc]

/-- No lookup is between its miss and its fetch, and all fetches so far were in time. -/
structure Waits (r : Race σ) (seen : List LookupEvent) : Prop where
  begun : ∀ role, r.lookups role ≠ .missed
  timely : EachAfter LookupEvent.Timely seen

theorem Waits.poll (h : r.Waits seen) (hl : r.Learns c₀ m seen) (t : Turn) :
    (r.run source o m t.poll).Waits (seen ++ r.events source o m t.poll) := by
  cases t with
  | live part =>
    have hquiet : r.events source o m (Turn.live part).poll = [] := rfl
    rw [hquiet, List.append_nil]
    exact ⟨h.begun, h.timely⟩
  | lookup role =>
    have t₁ := LookupPhase.next_turned source (role.mint m) (r.lookups role) r.workspace
    generalize hmid : ((r.lookups role).next source (role.mint m)).run r.workspace = mid at t₁
    have t₂ := LookupPhase.next_turned source (role.mint m) mid.1 mid.2
    generalize hlast : (mid.1.next source (role.mint m)).run mid.2 = last at t₂
    obtain ⟨hbegun, htimely⟩ := t₁.timely t₂ (h.begun role) hl.learnt h.timely
    have hrun : r.run source o m (Turn.lookup role).poll =
        ⟨last.2, Function.update r.lookups role last.1, r.lives⟩ := by
      simp only [Turn.poll, run, List.foldl_cons, List.foldl_nil, advance, hmid,
        Function.update_self, hlast, Function.update_idem]
    have hevents : r.events source o m (Turn.lookup role).poll =
        (LookupPhase.event? (role.mint m) (r.lookups role) mid.1).toList ++
          (LookupPhase.event? (role.mint m) mid.1 last.1).toList := by
      simp only [Turn.poll, Race.events, event?, advance, hmid, Function.update_self, hlast,
        List.append_nil]
    rw [hrun, hevents, ← List.append_assoc]
    refine ⟨?_, htimely⟩
    exact (Function.forall_update_iff r.lookups fun _ phase => phase ≠ .missed).mpr
      ⟨hbegun, fun role' _ => h.begun role'⟩

theorem Waits.polls (h : r.Waits seen) (hl : r.Learns c₀ m seen) (polls : List Turn) :
    (r.run source o m (polls.flatMap Turn.poll)).Waits
      (seen ++ r.events source o m (polls.flatMap Turn.poll)) := by
  induction polls generalizing r seen with
  | nil =>
    rw [List.flatMap_nil, Race.events, List.append_nil]
    exact h
  | cons t polls ih =>
    rw [List.flatMap_cons, run_append, events_append, ← List.append_assoc]
    exact ih (h.poll hl t) (hl.run t.poll)

end Race

end Polls

/-- The fetches that were made for lookups. -/
def Workspace.lookupFetches (w : Workspace σ) : List Fetch :=
  w.fetches.filter fun f => f.purpose = .decimals

theorem LookupPhase.Turned.lookupFetches_eq {mint : Address} {v v' : Workspace σ}
    {before after : LookupPhase} (t : Turned source mint v before (after, v')) :
    v'.lookupFetches =
      v.lookupFetches ++ ((before.event? mint after).bind LookupEvent.asked?).toList := by
  cases t with
  | asked =>
    change List.filter _ (v.fetches ++ [_]) = _
    rw [List.filter_append]
    rfl
  | _ => exact (List.append_nil _).symm

theorem LivePhase.Turned.lookupFetches_eq {wanted : Bool} {address : Address} {v v' : Workspace σ}
    {before after : LivePhase} (t : Turned source wanted address v before (after, v')) :
    v'.lookupFetches = v.lookupFetches := by
  cases t with
  | asked =>
    change List.filter _ (v.fetches ++ [_]) = _
    rw [List.filter_append]
    exact List.append_nil _
  | _ => rfl

theorem Race.Advanced.lookupFetches_eq {o : SnapshotOptions} {m : MarketRecord} {r r' : Race σ}
    {e? : Option LookupEvent} (t : r.Advanced source o m r' e?) :
    r'.workspace.lookupFetches = r.workspace.lookupFetches ++ asksOf e?.toList := by
  cases t with
  | @lookup role phase _ t =>
    rw [t.lookupFetches_eq]
    cases (r.lookups role).event? (role.mint m) phase with
    | none => rfl
    | some e => cases e <;> rfl
  | live part t => rw [t.lookupFetches_eq, Option.toList_none, asksOf, List.filterMap_nil,
      List.append_nil]

/-- The fetches of a race for its lookups are those that are seen. -/
theorem Race.lookupFetches_run (o : SnapshotOptions) (m : MarketRecord) (r : Race σ)
    (schedule : List Turn) :
    (r.run source o m schedule).workspace.lookupFetches =
      r.workspace.lookupFetches ++ asksOf (r.events source o m schedule) := by
  have hstart : r.workspace.lookupFetches = r.workspace.lookupFetches ++ asksOf [] :=
    (List.append_nil _).symm
  refine run_induction (P := fun r' seen =>
    r'.workspace.lookupFetches = r.workspace.lookupFetches ++ asksOf seen) ?_ hstart schedule
  intro r' seen r'' e? h t
  rw [t.lookupFetches_eq, h, List.append_assoc, asksOf, asksOf, asksOf, ← List.filterMap_append]

namespace SnapshotBuilder

variable {b : SnapshotBuilder} {w w₁ w' : Workspace σ} {schedule : List Turn}
  {result : Option (Except SnapshotError Market × SnapshotBuilder)}
  {events seen : List LookupEvent} {c₀ : DecimalsCache}

/-- The market account is no mint. -/
theorem lookups_of_marketData {fetched : Except FetchError Bytes}
    (h : (b.marketData source).run w = (fetched, w₁)) :
    w₁.cache = w.cache ∧ w₁.lookupFetches = w.lookupFetches := by
  obtain rfl : _ = w₁ := congrArg Prod.snd h
  cases hp : b.pinned with
  | some data =>
    rw [marketData_of_pinned source hp]
    exact ⟨rfl, rfl⟩
  | none =>
    rw [marketData_of_unpinned source hp]
    refine ⟨rfl, ?_⟩
    change List.filter _ (w.fetches ++ [_]) = _
    rw [List.filter_append]
    exact List.append_nil _

/-- A call, whatever becomes of it, teaches what the answers say that its lookups take. -/
theorem Called.learns (h : Called source b schedule w result w' events)
    (hc : Learnt c₀ (answersOf seen) w.cache) (hw : EachAfter LookupEvent.Warranted seen) :
    Learnt c₀ (answersOf (seen ++ events)) w'.cache ∧
      EachAfter LookupEvent.Warranted (seen ++ events) := by
  cases h with
  | unfetched hdata =>
    rw [List.append_nil, (lookups_of_marketData hdata).1]
    exact ⟨hc, hw⟩
  | undecoded hdata =>
    rw [List.append_nil, (lookups_of_marketData hdata).1]
    exact ⟨hc, hw⟩
  | fixed hdata =>
    rw [List.append_nil, (lookups_of_marketData hdata).1]
    exact ⟨hc, hw⟩
  | @raced data w₁ m hdata hm hn =>
    rw [← (lookups_of_marketData hdata).1] at hc
    have hstart : (Race.start w₁).Learns c₀ m.toMarketRecord seen := Race.learns_start hc hw
    exact ⟨(hstart.run schedule).learnt, (hstart.run schedule).warranted⟩

theorem Called.cache_extends (h : Called source b schedule w result w' events) :
    w.cache.Extends w'.cache := by
  have hc : Learnt w.cache (answersOf []) w.cache := Learnt.refl w.cache
  exact (h.learns hc eachAfter_nil).1.kept

theorem Called.timely {polls : List Turn}
    (h : Called source b (polls.flatMap Turn.poll) w result w' events)
    (hc : Learnt c₀ (answersOf seen) w.cache) (hw : EachAfter LookupEvent.Warranted seen)
    (ht : EachAfter LookupEvent.Timely seen) : EachAfter LookupEvent.Timely (seen ++ events) := by
  cases h with
  | unfetched => rwa [List.append_nil]
  | undecoded => rwa [List.append_nil]
  | fixed => rwa [List.append_nil]
  | @raced data w₁ m hdata hm hn =>
    rw [← (lookups_of_marketData hdata).1] at hc
    have hwaits : (Race.start w₁).Waits seen := ⟨fun _ => LookupPhase.noConfusion, ht⟩
    exact (hwaits.polls (Race.learns_start hc hw) polls).timely

theorem Called.lookupFetches_eq (h : Called source b schedule w result w' events) :
    w'.lookupFetches = w.lookupFetches ++ asksOf events := by
  cases h with
  | unfetched hdata => exact (lookups_of_marketData hdata).2.trans (List.append_nil _).symm
  | undecoded hdata => exact (lookups_of_marketData hdata).2.trans (List.append_nil _).symm
  | fixed hdata => exact (lookups_of_marketData hdata).2.trans (List.append_nil _).symm
  | @raced data w₁ m hdata =>
    rw [← (lookups_of_marketData hdata).2]
    exact Race.lookupFetches_run b.options m.toMarketRecord (Race.start w₁) schedule

end SnapshotBuilder

end SerumDex
