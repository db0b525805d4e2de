import SerumDex.Proofs.Desk
import SerumDex.Proofs.Requests

namespace SerumDex

/-- What a lookup of wrapped SOL answers: what the cache holds for it, or nine if it holds none. -/
def DecimalsCache.solDecimals (c : DecimalsCache) : UInt8 :=
  (c.get? Address.wrappedSol).getD wrappedSolDecimals

theorem DecimalsCache.insert_wrappedSol (c : DecimalsCache) :
    (c.insert Address.wrappedSol wrappedSolDecimals).1 = c.solDecimals := by
  cases h : c.get? Address.wrappedSol with
  | some kept => rw [insert_of_some h, solDecimals, h, Option.getD_some]
  | none => rw [insert_of_none h, solDecimals, h, Option.getD_none]

variable {σ : Type} {source : Source σ}

/-- How wrapped SOL fares between two workspaces. -/
structure SolKept (w w' : Workspace σ) : Prop where
  /-- The cache answers for it as before, whether or not a lookup has entered it by now. -/
  answer : w'.cache.solDecimals = w.cache.solDecimals
  unfetched : ∃ fs, w'.fetches = w.fetches ++ fs ∧
    ∀ f ∈ fs, f.purpose = .decimals → f.address ≠ Address.wrappedSol

namespace SolKept

variable {u v w : Workspace σ}

theorem of_fetches_eq (hc : v.cache.solDecimals = u.cache.solDecimals)
    (hf : v.fetches = u.fetches) : SolKept u v :=
  ⟨hc, [], by rw [hf, List.append_nil], fun _ h => nomatch h⟩

theorem of_fetch {f : Fetch} (hc : v.cache.solDecimals = u.cache.solDecimals)
    (hf : v.fetches = u.fetches ++ [f])
    (hsol : f.purpose = .decimals → f.address ≠ Address.wrappedSol) : SolKept u v := by
  refine ⟨hc, [f], hf, ?_⟩
  intro g hg
  rw [List.mem_singleton.mp hg]
  exact hsol

theorem trans (h : SolKept u v) (h' : SolKept v w) : SolKept u w := by
  obtain ⟨fs, hfs, hsol⟩ := h.unfetched
  obtain ⟨gs, hgs, hsol'⟩ := h'.unfetched
  refine ⟨h'.answer.trans h.answer, fs ++ gs, ?_, ?_⟩
  · rw [hgs, hfs, List.append_assoc]
  · intro f hf
    rcases List.mem_append.mp hf with hf | hf
    · exact hsol f hf
    · exact hsol' f hf

end SolKept

theorem Lookup.solKept {mint : Address} {w : Workspace σ}
    {out : Except SnapshotError UInt8 × Workspace σ} (h : Lookup source mint w out) :
    SolKept w out.2 := by
  cases h with
  | wrappedSol hm =>
    -- The value that is kept is the one that the cache answered before.
    have hsame : (w.cache.insert mint wrappedSolDecimals).2.solDecimals = w.cache.solDecimals := by
      rw [hm, DecimalsCache.solDecimals, DecimalsCache.get?_insert_self, Option.getD_some,
        DecimalsCache.insert_wrappedSol]
    exact SolKept.of_fetches_eq hsame rfl
  | cached => exact SolKept.of_fetches_eq rfl rfl
  | failed hm => exact SolKept.of_fetch rfl rfl fun _ => hm
  | learned hm hn d =>
    refine SolKept.of_fetch ?_ rfl fun _ => hm
    -- Another mint is entered behind whatever there is, which leaves wrapped SOL alone.
    have hother : (Address.wrappedSol == mint) = false := by
      simpa only [beq_eq_false_iff_ne] using Ne.symm hm
    have hlookup : (⟨w.cache.entries ++ [(mint, d)]⟩ : DecimalsCache).get? Address.wrappedSol =
        w.cache.get? Address.wrappedSol := by
      rw [DecimalsCache.get?, List.lookup_append, List.lookup_cons, hother, List.lookup_nil]
      exact Option.or_none
    exact congrArg (fun kept => kept.getD wrappedSolDecimals) hlookup

theorem frame_solKept (source : Source σ) : Frame source SolKept where
  refl _ := SolKept.of_fetches_eq rfl rfl
  trans := SolKept.trans
  emit _ _ := SolKept.of_fetches_eq rfl rfl
  ask _ _ _ hp := SolKept.of_fetch rfl rfl fun h => absurd h hp
  lookup mint w := (lookupDecimals_run source mint w).solKept

/-- The mints of a market with their decimals. -/
def Market.sides (m : Market) : List (Address × UInt8) :=
  [(m.baseMint, m.baseDecimals), (m.quoteMint, m.quoteDecimals)]

theorem Market.Resolved.get?_of_side {m : Market} {cache : DecimalsCache} (h : m.Resolved cache) :
    ∀ side ∈ m.sides, cache.get? side.1 = some side.2 := by
  intro side hside
  rcases List.mem_cons.mp hside with rfl | hside
  · exact h.base
  · rw [List.mem_singleton.mp hside]
    exact h.quote

/-- A build that resolves decimals fetches no wrapped SOL for it, and each side of the market that
is wrapped SOL has what the cache answered for it before the build. This is nine unless another
value was entered for wrapped SOL. -/
theorem wrappedSol_side_decimals {b b' : SnapshotBuilder} {w w' : Workspace σ} {m : Market}
    (hn : b.options.needsDecimals = true) (h : (b.build source).run w = ((.ok m, b'), w')) :
    (∀ f ∈ w.since w' .decimals, f.address ≠ Address.wrappedSol) ∧
    ∀ side ∈ m.sides, side.1 = Address.wrappedSol →
      side.2 = w.cache.solDecimals ∧
        (side.2 = 9 ↔ ∀ kept ∈ w.cache.get? Address.wrappedSol, kept = 9) := by
  have hkept : SolKept w w' := by
    have hbuild := (frame_solKept source).build b w
    rwa [h] at hbuild
  constructor
  · obtain ⟨fs, hfs, hsol⟩ := hkept.unfetched
    intro f hf
    rw [Workspace.since_of_append hfs, List.mem_filter] at hf
    exact hsol f hf.1 (of_decide_eq_true hf.2)
  · intro side hside hmint
    obtain ⟨_, _, _, hm⟩ := build_ok h
    have hget := (hm.resolved hn).get?_of_side side hside
    have hdecimals : side.2 = w.cache.solDecimals := by
      rw [← hkept.answer, DecimalsCache.solDecimals, ← hmint, hget, Option.getD_some]
    refine ⟨hdecimals, ?_⟩
    rw [hdecimals, DecimalsCache.solDecimals]
    cases w.cache.get? Address.wrappedSol with
    | none =>
      rw [Option.getD_none]
      exact iff_of_true rfl (fun _ hk => nomatch hk)
    | some kept =>
      rw [Option.getD_some]
      constructor
      · intro hnine kept' hk
        rwa [← Option.some.inj hk]
      · intro hall
        exact hall kept rfl

section Entered

/-- A market of wrapped SOL against a mint with six decimals. -/
def solRecord : MarketRecord := { sampleRecord with baseMint := Address.wrappedSol }

/-- A builder that has pinned that market and resolves its decimals. -/
def solBuilder : SnapshotBuilder :=
  ⟨solRecord.ownAddress, ⟨false, false, true⟩,
    some (writtenHead 3 ++ MarketRecord.layout.write solRecord)⟩

/-- The sides of the market after a build over a cache with the given entries. -/
def solSides (entries : List (Address × UInt8)) : Option (List (Address × UInt8)) :=
  (valueOf? ((solBuilder.build sampleSource).run ⟨6, ⟨entries⟩, [], []⟩).1.1).map Market.sides

theorem wrappedSol_side_decimals_of_unentered :
    ∃ m b' w', (solBuilder.build sampleSource).run ⟨6, ⟨[]⟩, [], []⟩ = ((.ok m, b'), w') ∧
      m.baseMint = Address.wrappedSol ∧ m.baseDecimals = 9 := by
  have hsides : solSides [] = some [(Address.wrappedSol, 9), (sampleAddress 3, 6)] := by
    decide +kernel
  unfold solSides at hsides
  rcases hrun : (solBuilder.build sampleSource).run ⟨6, ⟨[]⟩, [], []⟩ with ⟨⟨result, b'⟩, w'⟩
  rw [hrun] at hsides
  cases result with
  | error e => exact nomatch hsides
  | ok m =>
    have hmint : m.baseMint = Address.wrappedSol :=
      congrArg Prod.fst (List.cons.inj (Option.some.inj hsides)).1
    have hside := (wrappedSol_side_decimals rfl hrun).2 _ List.mem_cons_self hmint
    exact ⟨m, b', w', rfl, hmint, hside.2.mpr (fun _ hk => nomatch hk)⟩

/-- Six was entered for wrapped SOL before the build, and six is what its side gets. -/
theorem wrappedSol_side_decimals_of_entered_six :
    solSides [(Address.wrappedSol, 6)] = some [(Address.wrappedSol, 6), (sampleAddress 3, 6)] := by
  decide +kernel

end Entered

end SerumDex
