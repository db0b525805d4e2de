import SerumDex.Snapshot.Builder

namespace SerumDex

namespace DecimalsCache

/-- Later knowledge: every entry is still there, unchanged and in its place. -/
def Extends (c c' : DecimalsCache) : Prop := c.entries <+: c'.entries

theorem Extends.refl (c : DecimalsCache) : c.Extends c := List.prefix_refl _

theorem Extends.trans {c c' c'' : DecimalsCache} (h : c.Extends c') (h' : c'.Extends c'') :
    c.Extends c'' := List.IsPrefix.trans h h'

theorem Extends.get? {c c' : DecimalsCache} (h : c.Extends c') {mint : Address} {d : UInt8}
    (hd : c.get? mint = some d) : c'.get? mint = some d := by
  obtain ⟨rest, hr⟩ := h
  rw [DecimalsCache.get?] at hd
  rw [DecimalsCache.get?, ← hr, List.lookup_append, hd, Option.some_or]

theorem mem_of_get? {c : DecimalsCache} {mint : Address} {d : UInt8} (h : c.get? mint = some d) :
    (mint, d) ∈ c.entries := by
  obtain ⟨front, back, he, _⟩ := List.lookup_eq_some_iff.mp h
  rw [he]
  exact List.mem_append_right _ List.mem_cons_self

theorem insert_of_some {c : DecimalsCache} {mint : Address} {kept : UInt8}
    (h : c.get? mint = some kept) (d : UInt8) : c.insert mint d = (kept, c) := by
  rw [insert, h]

theorem insert_of_none {c : DecimalsCache} {mint : Address} (h : c.get? mint = none) (d : UInt8) :
    c.insert mint d = (d, ⟨c.entries ++ [(mint, d)]⟩) := by
  rw [insert, h]

theorem extends_insert (c : DecimalsCache) (mint : Address) (d : UInt8) :
    c.Extends (c.insert mint d).2 := by
  cases h : c.get? mint with
  | some kept =>
    rw [insert_of_some h]
    exact Extends.refl c
  | none =>
    rw [insert_of_none h]
    exact List.prefix_append _ _

theorem get?_insert_self (c : DecimalsCache) (mint : Address) (d : UInt8) :
    (c.insert mint d).2.get? mint = some (c.insert mint d).1 := by
  rw [get?_insert, if_pos rfl]

theorem get?_append_self {c : DecimalsCache} {mint : Address} (h : c.get? mint = none) (d : UInt8) :
    (⟨c.entries ++ [(mint, d)]⟩ : DecimalsCache).get? mint = some d := by
  have hkept := c.get?_insert_self mint d
  rwa [insert_of_none h] at hkept

end DecimalsCache

/-- The decimals that a fetch brought, if it was made for a lookup and a mint came back. -/
def Fetch.decimals? (f : Fetch) : Option UInt8 :=
  match f.purpose, f.answer with
  | .decimals, .ok data => (valueOf? (decodeMint f.address data)).map DecodedMint.decimals
  | _, _ => none

variable {σ α β : Type}

theorem Step.run_bind (x : Step σ α) (f : α → Step σ β) (w : Workspace σ) :
    (x >>= f).run w = (f (x.run w).1).run (x.run w).2 := rfl

def lookupFetch (source : Source σ) (mint : Address) (w : Workspace σ) : Fetch :=
  ⟨.decimals, mint, (source mint w.source).1⟩

/-- A workspace after one more fetch, with what has become of the cache. -/
def Workspace.fetched (w : Workspace σ) (source : Source σ) (mint : Address)
    (cache : DecimalsCache) : Workspace σ where
  source := (source mint w.source).2
  cache := cache
  fetches := w.fetches ++ [lookupFetch source mint w]
  log := w.log ++ [cacheMiss mint]

/-- All that the lookup of a mint can do to a workspace, with its outcome. -/
inductive Lookup (source : Source σ) (mint : Address) (w : Workspace σ) :
    Except SnapshotError UInt8 × Workspace σ → Prop
  | wrappedSol (hm : mint = Address.wrappedSol) :
      Lookup source mint w (.ok (w.cache.insert mint wrappedSolDecimals).1,
        { w with cache := (w.cache.insert mint wrappedSolDecimals).2 })
  | cached (hm : mint ≠ Address.wrappedSol) (d : UInt8) (hd : w.cache.get? mint = some d) :
      Lookup source mint w (.ok d, { w with log := w.log ++ [cacheHit mint d] })
  /-- Nothing, or no mint, came back. -/
  | failed (hm : mint ≠ Address.wrappedSol) (hn : w.cache.get? mint = none)
      (hf : (lookupFetch source mint w).decimals? = none) (reason : String) :
      Lookup source mint w (.error (.lookup mint reason), w.fetched source mint w.cache)
  | learned (hm : mint ≠ Address.wrappedSol) (hn : w.cache.get? mint = none) (d : UInt8)
      (hf : (lookupFetch source mint w).decimals? = some d) :
      Lookup source mint w
        (.ok d, w.fetched source mint ⟨w.cache.entries ++ [(mint, d)]⟩)

namespace Lookup

variable {source : Source σ} {mint : Address} {w : Workspace σ}
  {out : Except SnapshotError UInt8 × Workspace σ}

theorem cache_extends (h : Lookup source mint w out) : w.cache.Extends out.2.cache := by
  cases h with
  | wrappedSol => exact DecimalsCache.extends_insert _ _ _
  | cached => exact DecimalsCache.Extends.refl _
  | failed => exact DecimalsCache.Extends.refl _
  | learned => exact List.prefix_append _ _

/-- What a lookup answers is what the cache holds from then on. -/
theorem get?_of_ok (h : Lookup source mint w out) {d : UInt8} (hd : out.1 = .ok d) :
    out.2.cache.get? mint = some d := by
  cases h with
  | wrappedSol => rw [← Except.ok.inj hd, DecimalsCache.get?_insert_self]
  | cached _ d' hd' => rwa [← Except.ok.inj hd]
  | failed => exact nomatch hd
  | learned _ hn d' =>
    rw [← Except.ok.inj hd]
    exact DecimalsCache.get?_append_self hn d'

theorem fetches_grow (h : Lookup source mint w out) : w.fetches <+: out.2.fetches := by
  cases h with
  | wrappedSol => exact List.prefix_refl _
  | cached => exact List.prefix_refl _
  | failed => exact List.prefix_append _ _
  | learned => exact List.prefix_append _ _

end Lookup

/-- A lookup does what it started with: it answers at once, or it fetches and finishes. -/
theorem lookupDecimals_run_eq (source : Source σ) (mint : Address) (w : Workspace σ) :
    (lookupDecimals source mint).run w =
      match startLookup mint w.cache with
      | (.known d, cache) => (.ok d, { w with cache := cache })
      | (.cached d, cache) => (.ok d, { w with cache := cache, log := w.log ++ [cacheHit mint d] })
      | (.missing, cache) =>
        let done := finishLookup mint (source mint w.source).1 cache
        (done.1, w.fetched source mint done.2) := by
  rcases hstart : startLookup mint w.cache with ⟨start, cache⟩
  have hupdate : (Step.updateCache (startLookup mint)).run w =
      (start, { w with cache := cache }) := by
    change ((startLookup mint w.cache).1, { w with cache := (startLookup mint w.cache).2 }) = _
    rw [hstart]
  rw [lookupDecimals, Step.run_bind, hupdate]
  cases start <;> rfl

theorem startLookup_wrappedSol (cache : DecimalsCache) :
    startLookup Address.wrappedSol cache =
      (.known (cache.insert Address.wrappedSol wrappedSolDecimals).1,
        (cache.insert Address.wrappedSol wrappedSolDecimals).2) := by
  rw [startLookup, isWrappedSol, if_pos (decide_eq_true rfl)]

theorem startLookup_of_ne {mint : Address} (hm : mint ≠ Address.wrappedSol)
    (cache : DecimalsCache) : startLookup mint cache =
      match cache.get? mint with
      | some d => (.cached d, cache)
      | none => (.missing, cache) := by
  have hsol : ¬ isWrappedSol mint = true := by simpa only [isWrappedSol, decide_eq_true_eq] using hm
  unfold startLookup
  exact if_neg hsol

theorem lookupDecimals_run (source : Source σ) (mint : Address) (w : Workspace σ) :
    Lookup source mint w ((lookupDecimals source mint).run w) := by
  rw [lookupDecimals_run_eq]
  -- Wrapped SOL is asked for before the cache, and the cache before the source.
  by_cases hm : mint = Address.wrappedSol
  · rw [hm, startLookup_wrappedSol]
    exact .wrappedSol rfl
  rw [startLookup_of_ne hm]
  cases hd : w.cache.get? mint with
  | some d => exact .cached hm d hd
  | none =>
    cases ha : (source mint w.source).1 with
    | error e =>
      apply Lookup.failed hm hd
      simp only [lookupFetch, Fetch.decimals?, ha]
    | ok data =>
      cases hdec : decodeMint mint data with
      | error e =>
        simp only [finishLookup, hdec]
        apply Lookup.failed hm hd
        simp only [lookupFetch, Fetch.decimals?, ha, hdec, valueOf?, Option.map_none]
      | ok decoded =>
        simp only [finishLookup, hdec, DecimalsCache.insert_of_none hd]
        apply Lookup.learned hm hd
        simp only [lookupFetch, Fetch.decimals?, ha, hdec, valueOf?, Option.map_some]

end SerumDex
