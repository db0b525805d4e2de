import SerumDex.Proofs.Desk
import SerumDex.Proofs.Requests

namespace SerumDex

variable {σ : Type}

theorem DecimalsCache.get?_ne_none_of_mem {c : DecimalsCache} {e : Address × UInt8}
    (h : e ∈ c.entries) : c.get? e.1 ≠ none := by
  intro hn
  have hne := List.lookup_eq_none_iff.mp hn e h
  simp at hne

namespace Request

/-- What a request finds: a lookup that succeeds finds the decimals of its mint. -/
def found? (source : Source σ) (w : Workspace σ) : Request → Option (Address × UInt8)
  | decimals mint => (valueOf? ((lookupDecimals source mint).run w).1).map fun d => (mint, d)
  | live _ => none

def found (source : Source σ) : List Request → Workspace σ → List (Address × UInt8)
  | [], _ => []
  | r :: rs, w => (r.found? source w).toList ++ found source rs (r.after source w)

end Request

def SnapshotBuilder.found (source : Source σ) (b : SnapshotBuilder) (w : Workspace σ) :
    List (Address × UInt8) :=
  Request.found source (b.plan source w).1 (b.plan source w).2

/-- How the cache grows between two workspaces, given what was found in between. -/
structure Learned (finds : List (Address × UInt8)) (w w' : Workspace σ) : Prop where
  /-- Every entry is still there, unchanged. -/
  kept : w.cache.Extends w'.cache
  /-- Every new entry was found, for a mint that had none. -/
  new : ∀ e ∈ w'.cache.entries, e ∈ w.cache.entries ∨ w.cache.get? e.1 = none ∧ e ∈ finds
  /-- Whatever was found is there. -/
  remembered : ∀ e ∈ finds, w'.cache.get? e.1 = some e.2
  /-- What was found for a mint without an entry is wrapped SOL, or it came back for a fetch. -/
  fetched : ∀ e ∈ finds, w.cache.get? e.1 = none →
    e = (Address.wrappedSol, wrappedSolDecimals) ∨
      ∃ f ∈ w.since w' .decimals, f.address = e.1 ∧ f.decimals? = some e.2
  /-- Every mint that came back was found. -/
  brought : ∀ f ∈ w.since w' .decimals, ∀ d, f.decimals? = some d → (f.address, d) ∈ finds

namespace Learned

variable {u v w : Workspace σ} {finds later : List (Address × UInt8)}

theorem of_eq (hc : v.cache = u.cache) (hf : ∀ f ∈ u.since v .decimals, f.decimals? = none) :
    Learned [] u v := by
  constructor
  · rw [hc]
    exact DecimalsCache.Extends.refl _
  · intro e he
    rw [hc] at he
    exact .inl he
  · intro e he
    exact nomatch he
  · intro e he
    exact nomatch he
  · intro f hmem d hd
    rw [hf f hmem] at hd
    exact nomatch hd

theorem one {mint : Address} {d : UInt8} (hkept : u.cache.Extends v.cache)
    (hget : v.cache.get? mint = some d)
    (hnew : ∀ e ∈ v.cache.entries, e ∈ u.cache.entries ∨ u.cache.get? mint = none ∧ e = (mint, d))
    (hfetched : u.cache.get? mint = none → (mint, d) = (Address.wrappedSol, wrappedSolDecimals) ∨
      ∃ f ∈ u.since v .decimals, f.address = mint ∧ f.decimals? = some d)
    (hbrought : ∀ f ∈ u.since v .decimals, f.address = mint ∧ f.decimals? = some d) :
    Learned [(mint, d)] u v := by
  constructor
  · exact hkept
  · intro e he
    rcases hnew e he with hold | ⟨hn, rfl⟩
    · exact .inl hold
    · exact .inr ⟨hn, List.mem_singleton_self _⟩
  · intro e he
    rw [List.mem_singleton.mp he]
    exact hget
  · intro e he
    rw [List.mem_singleton.mp he]
    exact hfetched
  · intro f hf d' hd'
    obtain ⟨haddress, hd⟩ := hbrought f hf
    rw [haddress, Option.some.inj (hd'.symm.trans hd)]
    exact List.mem_singleton_self _

theorem trans (h : Learned finds u v) (h' : Learned later v w) (huv : u.fetches <+: v.fetches)
    (hvw : v.fetches <+: w.fetches) : Learned (finds ++ later) u w := by
  have hsince := Workspace.since_trans huv hvw .decimals
  have hunknown {mint : Address} (hn : v.cache.get? mint = none) : u.cache.get? mint = none := by
    cases hd : u.cache.get? mint with
    | none => rfl
    | some d => exact nomatch hn.symm.trans (h.kept.get? hd)
  have hold {e : Address × UInt8} (he : e ∈ finds) (hn : u.cache.get? e.1 = none) :
      e = (Address.wrappedSol, wrappedSolDecimals) ∨
        ∃ f ∈ u.since w .decimals, f.address = e.1 ∧ f.decimals? = some e.2 := by
    rcases h.fetched e he hn with hsol | ⟨f, hf, hfound⟩
    · exact .inl hsol
    · rw [hsince]
      exact .inr ⟨f, List.mem_append_left _ hf, hfound⟩
  constructor
  · exact h.kept.trans h'.kept
  · intro e he
    rcases h'.new e he with he | ⟨hn, hl⟩
    · rcases h.new e he with he | ⟨hn, hf⟩
      · exact .inl he
      · exact .inr ⟨hn, List.mem_append_left _ hf⟩
    · exact .inr ⟨hunknown hn, List.mem_append_right _ hl⟩
  · intro e he
    rcases List.mem_append.mp he with he | he
    · exact h'.kept.get? (h.remembered e he)
    · exact h'.remembered e he
  · intro e he hn
    rcases List.mem_append.mp he with he | he
    · exact hold he hn
    cases hv : v.cache.get? e.1 with
    | none =>
      rcases h'.fetched e he hv with hsol | ⟨f, hf, hfound⟩
      · exact .inl hsol
      · rw [hsince]
        exact .inr ⟨f, List.mem_append_right _ hf, hfound⟩
    | some d =>
      -- The mint was looked up twice, and the second lookup read what the first one had found.
      have hd : d = e.2 := Option.some.inj ((h'.kept.get? hv).symm.trans (h'.remembered e he))
      rw [hd] at hv
      rcases h.new e (DecimalsCache.mem_of_get? hv) with hmem | ⟨_, hmem⟩
      · exact absurd hn (DecimalsCache.get?_ne_none_of_mem hmem)
      · exact hold hmem hn
  · intro f hf d hd
    rw [hsince] at hf
    rcases List.mem_append.mp hf with hf | hf
    · exact List.mem_append_left _ (h.brought f hf d hd)
    · exact List.mem_append_right _ (h'.brought f hf d hd)

end Learned

variable {source : Source σ}

theorem since_fetched (source : Source σ) (mint : Address) (w : Workspace σ)
    (cache : DecimalsCache) :
    w.since (w.fetched source mint cache) .decimals = [lookupFetch source mint w] := by
  have hfetches : (w.fetched source mint cache).fetches =
      w.fetches ++ [lookupFetch source mint w] := rfl
  rw [Workspace.since_of_append hfetches]
  rfl

/-- A lookup that succeeds has found its mint, and one that fails has found nothing. -/
theorem Lookup.finds {mint : Address} {w : Workspace σ}
    {out : Except SnapshotError UInt8 × Workspace σ} (h : Lookup source mint w out) :
    Learned ((valueOf? out.1).map fun d => (mint, d)).toList w out.2 := by
  have hget := fun d => h.get?_of_ok (d := d)
  have hkept := h.cache_extends
  cases h with
  | wrappedSol hm =>
    have hnone : w.since { w with
        cache := (w.cache.insert mint wrappedSolDecimals).2 } .decimals = [] :=
      Workspace.since_of_eq rfl _
    apply Learned.one hkept (hget _ rfl)
    · intro e he
      cases hn : w.cache.get? mint with
      | some kept =>
        rw [DecimalsCache.insert_of_some hn] at he
        exact .inl he
      | none =>
        rw [DecimalsCache.insert_of_none hn] at he ⊢
        rcases List.mem_append.mp he with hold | hnew
        · exact .inl hold
        · exact .inr ⟨rfl, List.mem_singleton.mp hnew⟩
    · intro hn
      rw [DecimalsCache.insert_of_none hn, hm]
      exact .inl rfl
    · intro f hf
      rw [hnone] at hf
      exact nomatch hf
  | cached hm d hd =>
    have hnone : w.since { w with log := w.log ++ [cacheHit mint d] } .decimals = [] :=
      Workspace.since_of_eq rfl _
    apply Learned.one hkept (hget d rfl) (fun e he => .inl he)
    · intro hn
      exact nomatch hn.symm.trans hd
    · intro f hf
      rw [hnone] at hf
      exact nomatch hf
  | failed hm hn hf reason =>
    refine Learned.of_eq (u := w) (v := w.fetched source mint w.cache) rfl ?_
    intro f hmem
    rw [since_fetched] at hmem
    rw [List.mem_singleton.mp hmem]
    exact hf
  | learned hm hn d hf =>
    apply Learned.one hkept (hget d rfl)
    · intro e he
      rcases List.mem_append.mp he with hold | hnew
      · exact .inl hold
      · exact .inr ⟨hn, List.mem_singleton.mp hnew⟩
    · intro _
      rw [since_fetched]
      exact .inr ⟨_, List.mem_singleton_self _, rfl, hf⟩
    · intro f hmem
      rw [since_fetched] at hmem
      rw [List.mem_singleton.mp hmem]
      exact ⟨rfl, hf⟩

namespace Request

theorem learned_after (r : Request) (w : Workspace σ) :
    Learned (r.found? source w).toList w (r.after source w) := by
  cases r with
  | decimals mint => exact (lookupDecimals_run source mint w).finds
  | live address =>
    refine Learned.of_eq (u := w) (v := (live address).after source w) rfl ?_
    intro f hf
    rw [since_live, if_neg (by decide)] at hf
    exact nomatch hf

theorem learned_afterAll (rs : List Request) (w : Workspace σ) :
    Learned (found source rs w) w (afterAll source rs w) := by
  induction rs generalizing w with
  | nil =>
    apply Learned.of_eq rfl
    intro f hf
    have hnone : w.since w .decimals = [] := Workspace.since_of_eq rfl _
    exact nomatch hnone ▸ hf
  | cons r rs ih =>
    exact (r.learned_after w).trans (ih (r.after source w)) (r.fetches_after w)
      (fetches_afterAll rs _)

theorem decimals_mem_of_found {rs : List Request} {w : Workspace σ} {e : Address × UInt8}
    (he : e ∈ found source rs w) : decimals e.1 ∈ rs := by
  induction rs generalizing w with
  | nil => exact nomatch he
  | cons r rs ih =>
    rcases List.mem_append.mp he with hone | hlater
    · have hone := Option.mem_toList.mp hone
      cases r with
      | live address => exact nomatch hone
      | decimals mint =>
        obtain ⟨d, _, hd⟩ := Option.map_eq_some_iff.mp hone
        rw [← hd]
        exact List.mem_cons_self
    · exact List.mem_cons_of_mem _ (ih hlater)

end Request

theorem SnapshotOptions.decimals_mem_requests {o : SnapshotOptions} {m : MarketRecord}
    {mint : Address} (h : Request.decimals mint ∈ o.requests m) :
    mint = m.baseMint ∨ mint = m.quoteMint := by
  rcases List.mem_append.mp h with hmints | hparts
  · rcases List.mem_cons.mp hmints with hbase | hquote
    · exact .inl (Request.decimals.inj hbase)
    · exact .inr (Request.decimals.inj (List.mem_singleton.mp hquote))
  · obtain ⟨p, _, hp⟩ := List.mem_map.mp hparts
    exact nomatch hp

/-- What a call finds belongs to the mints of its market. -/
theorem SnapshotBuilder.mint_of_found {b : SnapshotBuilder} {w : Workspace σ}
    {e : Address × UInt8} (he : e ∈ b.found source w) :
    ∃ data w₁ m, (b.marketData source).run w = (.ok data, w₁) ∧ decodeMarket data = .ok m ∧
      (e.1 = m.baseMint ∨ e.1 = m.quoteMint) := by
  have hmem := Request.decimals_mem_of_found he
  unfold plan requests at hmem
  rcases hdata : (b.marketData source).run w with ⟨fetched, w₁⟩
  rw [hdata] at hmem
  cases fetched with
  | error e => exact nomatch hmem
  | ok data =>
    cases hm : decodeMarket data with
    | error e =>
      simp only [hm] at hmem
      exact nomatch hmem
    | ok m =>
      simp only [hm] at hmem
      cases hn : b.options.needsDecimals with
      | false =>
        rw [hn] at hmem
        exact nomatch hmem
      | true =>
        rw [hn, if_pos rfl] at hmem
        exact ⟨data, w₁, m, rfl, hm, SnapshotOptions.decimals_mem_requests hmem⟩

variable (source) in
/-- A call, whatever becomes of it, adds to the cache what its lookups find. -/
theorem learned_build (b : SnapshotBuilder) (w : Workspace σ) :
    Learned (b.found source w) w ((b.build source).run w).2 := by
  have hmarket : Learned [] w (b.plan source w).2 := by
    rw [b.plan_workspace source w]
    apply Learned.of_eq
    · cases hp : b.pinned with
      | some data => rw [SnapshotBuilder.marketData_of_pinned source hp]
      | none =>
        rw [SnapshotBuilder.marketData_of_unpinned source hp]
        rfl
    · intro f hf
      rw [SnapshotBuilder.since_marketData, if_neg (fun h => nomatch h.2)] at hf
      exact nomatch hf
  have hgrow : w.fetches <+: (b.plan source w).2.fetches := by
    rw [b.plan_workspace source w]
    exact (frame_fetches source).marketData b w
  have hall : Learned (b.found source w) w
      (Request.afterAll source (b.plan source w).1 (b.plan source w).2) :=
    hmarket.trans (Request.learned_afterAll _ _) hgrow (Request.fetches_afterAll _ _)
  -- What is logged besides is not looked at.
  obtain ⟨log, hlog⟩ := b.build_run_workspace source w
  rw [hlog]
  exact ⟨hall.kept, hall.new, hall.remembered, hall.fetched, hall.brought⟩

/-- What a failed call leaves of its builder and of the cache. -/
structure Spared (source : Source σ) (b b' : SnapshotBuilder) (w w' : Workspace σ) : Prop where
  /-- The address, the options and the pinned bytes, or that none are pinned, are the same. -/
  builder : b' = b
  learned : Learned (b.found source w) w w'
  mints : ∀ e ∈ b.found source w, ∃ data w₁ m, (b.marketData source).run w = (.ok data, w₁) ∧
    decodeMarket data = .ok m ∧ (e.1 = m.baseMint ∨ e.1 = m.quoteMint)

theorem spared_of_build {b b' : SnapshotBuilder} {w w' : Workspace σ} {e : SnapshotError}
    (h : (b.build source).run w = ((.error e, b'), w')) : Spared source b b' w w' := by
  have hlearned := learned_build source b w
  rw [h] at hlearned
  exact ⟨build_error h, hlearned, fun _ => SnapshotBuilder.mint_of_found⟩

/-- A call that fails changes neither the builder nor the market, and the cache only by what the
lookups of this call found for the mints of its market, all of which is kept. -/
theorem failed_call_spares (source : Source σ) (b : SnapshotBuilder) (m : Market)
    (w : Workspace σ) :
    (∀ e b' w', (b.build source).run w = ((.error e, b'), w') → Spared source b b' w w') ∧
      (∀ e m' b' w', (b.reload source m).run w = ((.error e, m', b'), w') →
        m' = m ∧ Spared source b b' w w') := by
  constructor
  · intro e b' w' h
    exact spared_of_build h
  · intro e m' b' w' h
    rcases hbuild : (b.build source).run w with ⟨⟨result, b''⟩, w''⟩
    cases result with
    | ok fresh =>
      rw [reload_of_ok hbuild] at h
      exact nomatch congrArg (fun out => out.1.1) h
    | error e' =>
      rw [reload_of_error hbuild] at h
      obtain rfl : m = m' := congrArg (fun out => out.1.2.1) h
      obtain rfl : b'' = b' := congrArg (fun out => out.1.2.2) h
      obtain rfl : w'' = w' := congrArg Prod.snd h
      exact ⟨rfl, spared_of_build hbuild⟩

/-- A builder that has built nothing yet and wants a queue, which the sample accounts lack. -/
def queueBuilder : SnapshotBuilder :=
  (SnapshotBuilder.new sampleRecord.ownAddress).withOptions ⟨false, true, false⟩

theorem failed_call_spares_of_missing_queue :
    ∃ e b' w', (queueBuilder.build sampleSource).run sampleWorkspace = ((.error e, b'), w') ∧
      b'.pinned = none ∧ w'.cache.get? sampleRecord.baseMint = some 6 ∧
      w'.cache.get? sampleRecord.quoteMint = some 6 := by
  have hfails : (errorOf? ((queueBuilder.build sampleSource).run sampleWorkspace).1.1).isSome =
      true := by decide +kernel
  have hfound : queueBuilder.found sampleSource sampleWorkspace =
      [(sampleRecord.baseMint, 6), (sampleRecord.quoteMint, 6)] := by decide +kernel
  rcases hrun : (queueBuilder.build sampleSource).run sampleWorkspace with ⟨⟨result, b'⟩, w'⟩
  rw [hrun] at hfails
  cases result with
  | ok m => exact nomatch hfails
  | error e =>
    obtain ⟨hb, hlearned, _⟩ := (failed_call_spares sampleSource queueBuilder
      (sampleRecord.toMarket (AccountFlags.ofBits 3)) sampleWorkspace).1 e b' w' hrun
    rw [hfound] at hlearned
    refine ⟨e, b', w', rfl, ?_, ?_, ?_⟩
    · rw [hb]
      rfl
    · exact hlearned.remembered _ List.mem_cons_self
    · exact hlearned.remembered _ (List.mem_cons_of_mem _ List.mem_cons_self)

end SerumDex
