import SerumDex.Proofs.RaceCalls
import SerumDex.Proofs.RaceInvariant

namespace SerumDex

variable {σ : Type} {source : Source σ}

/-- Two caches that hold the same entries, whatever the order in which they were entered. -/
structure DecimalsCache.SameContent (c c' : DecimalsCache) : Prop where
  entries : c.entries.Perm c'.entries
  get? : ∀ mint, c.get? mint = c'.get? mint

theorem DecimalsCache.SameContent.refl (c : DecimalsCache) : c.SameContent c :=
  ⟨List.Perm.refl _, fun _ => rfl⟩

namespace Race

variable {o : SnapshotOptions} {m : MarketRecord} {w : Workspace σ} {r r' : Race σ}

/-- Two races over the same requests leave the same cache. -/
theorem Sound.sameContent (h : r.Sound source o m w) (h' : r'.Sound source o m w) {g g' : Gathered}
    (hg : r.gathered? = some g) (hg' : r'.gathered? = some g') :
    r.workspace.cache.SameContent r'.workspace.cache := by
  obtain ⟨new, hnew⟩ := h.amid.gained
  obtain ⟨new', hnew'⟩ := h'.amid.gained
  have hmem (e : Address × UInt8) : e ∈ new ↔ e ∈ new' :=
    (h.mem_gained_iff hg hnew e).trans (h'.mem_gained_iff hg' hnew' e).symm
  -- Both caches begin with the entries of the start, so only those that were gained are compared.
  constructor
  · rw [hnew.entries, hnew'.entries]
    apply List.Perm.append_left
    exact (List.perm_ext_iff_of_nodup hnew.nodup.of_map hnew'.nodup.of_map).mpr hmem
  · intro mint
    have hlookup : new.lookup mint = new'.lookup mint := by
      apply Option.ext
      intro d
      rw [lookup_eq_some_iff_mem hnew.nodup, lookup_eq_some_iff_mem hnew'.nodup, hmem]
    rw [hnew.get?, hnew'.get?, hlookup]

section Ends

theorem left_of_lookup_turned {mint : Address} {v v' : Workspace σ} {before after : LookupPhase}
    (t : LookupPhase.Turned source mint v before (after, v')) : after.left ≤ before.left - 1 := by
  cases t with
  | missed => exact Nat.le_refl 2
  | asked => exact Nat.le_refl 1
  | _ => exact Nat.zero_le _

theorem left_of_live_turned {wanted : Bool} {address : Address} {v v' : Workspace σ}
    {before after : LivePhase} (t : LivePhase.Turned source wanted address v before (after, v')) :
    after.left ≤ before.left - 1 := by
  cases t with
  | asked => exact Nat.le_refl 1
  | _ => exact Nat.zero_le _

theorem left_advance_self (source : Source σ) (o : SnapshotOptions) (m : MarketRecord)
    (r : Race σ) (t : Turn) : (r.advance source o m t).left t ≤ r.left t - 1 := by
  cases t with
  | lookup role =>
    simp only [left, advance, Function.update_self]
    exact left_of_lookup_turned (LookupPhase.next_turned source _ _ r.workspace)
  | live part =>
    simp only [left, advance, Function.update_self]
    exact left_of_live_turned (LivePhase.next_turned source _ _ _ r.workspace)

theorem left_advance_of_ne (source : Source σ) (o : SnapshotOptions) (m : MarketRecord)
    (r : Race σ) {t t' : Turn} (ht : t' ≠ t) : (r.advance source o m t).left t' = r.left t' := by
  cases t with
  | lookup role =>
    cases t' with
    | live part => rfl
    | lookup role' =>
      have hrole : role' ≠ role := fun h => ht (congrArg Turn.lookup h)
      simp only [left, advance, Function.update_of_ne hrole]
  | live part =>
    cases t' with
    | lookup role => rfl
    | live part' =>
      have hpart : part' ≠ part := fun h => ht (congrArg Turn.live h)
      simp only [left, advance, Function.update_of_ne hpart]

theorem left_run (source : Source σ) (o : SnapshotOptions) (m : MarketRecord) (r : Race σ)
    (schedule : List Turn) (t : Turn) :
    (r.run source o m schedule).left t ≤ r.left t - schedule.count t := by
  -- A turn takes a step off its own request, and leaves the others as far as they are.
  induction schedule generalizing r with
  | nil => exact Nat.le_refl _
  | cons t' schedule ih =>
    have hlater := ih (r.advance source o m t')
    change (run source o m (r.advance source o m t') schedule).left t ≤ _
    by_cases ht : t = t'
    · subst ht
      have hnow := left_advance_self source o m r t
      rw [List.count_cons_self]
      omega
    · rw [left_advance_of_ne source o m r ht] at hlater
      rwa [List.count_cons_of_ne (Ne.symm ht)]

theorem exists_gathered (h : ∀ t, r.left t = 0) : ∃ g, r.gathered? = some g := by
  have hlookup (role : MintRole) : ∃ outcome, (r.lookups role).outcome? = some outcome := by
    have hleft : (r.lookups role).left = 0 := h (.lookup role)
    cases hphase : r.lookups role with
    | done outcome => exact ⟨outcome, rfl⟩
    | idle => rw [hphase] at hleft; exact nomatch hleft
    | missed => rw [hphase] at hleft; exact nomatch hleft
    | asked answer => rw [hphase] at hleft; exact nomatch hleft
  have hlive (part : LivePart) : ∃ outcome, (r.lives part).outcome? = some outcome := by
    have hleft : (r.lives part).left = 0 := h (.live part)
    cases hphase : r.lives part with
    | done outcome => exact ⟨outcome, rfl⟩
    | idle => rw [hphase] at hleft; exact nomatch hleft
    | asked answer => rw [hphase] at hleft; exact nomatch hleft
  obtain ⟨base, hbase⟩ := hlookup .base
  obtain ⟨quote, hquote⟩ := hlookup .quote
  obtain ⟨bids, hbids⟩ := hlive .bids
  obtain ⟨asks, hasks⟩ := hlive .asks
  obtain ⟨queue, hqueue⟩ := hlive .queue
  refine ⟨⟨base, quote, bids, asks, queue⟩, ?_⟩
  rw [gathered?, hbase, hquote, hbids, hasks, hqueue]
  rfl

/-- No order of the steps keeps the requests from ending: three steps are enough for each. -/
theorem exists_gathered_of_count (source : Source σ) (o : SnapshotOptions) (m : MarketRecord)
    (w : Workspace σ) {schedule : List Turn} (h : ∀ t, 3 ≤ schedule.count t) :
    ∃ g, ((start w).run source o m schedule).gathered? = some g := by
  apply exists_gathered
  intro t
  have hrun := left_run source o m (start w) schedule t
  have hstart : (start w).left t ≤ 3 := by
    cases t with
    | lookup role => exact Nat.le_refl 3
    | live part => exact Nat.le_succ 2
  have hcount := h t
  omega

end Ends

end Race

theorem gatherBy_eq_gather {w : Workspace σ} (steady : Steady source w.source)
    (o : SnapshotOptions) (m : Market) {schedule : List Turn} {g : Gathered} {w' : Workspace σ}
    (h : (gatherBy source o m.toMarketRecord schedule).run w = (some g, w')) :
    g = ((gather source o m).run w).1 ∧
      w'.cache.SameContent ((gather source o m).run w).2.cache := by
  have hstart : (Race.start w).Sound source o m.toMarketRecord w := Race.sound_start w
  -- Both orders keep the same invariant, and it alone settles what is brought.
  have hsound := hstart.run steady schedule
  have hordered := hstart.run steady Race.inOrder
  obtain ⟨hgathered, hworkspace⟩ := Race.run_inOrder source o m w
  have hg : ((Race.start w).run source o m.toMarketRecord schedule).gathered? = some g :=
    congrArg Prod.fst h
  have hw : ((Race.start w).run source o m.toMarketRecord schedule).workspace = w' :=
    congrArg Prod.snd h
  rw [← hw, ← hworkspace]
  refine ⟨?_, hsound.sameContent hordered hg hgathered⟩
  rw [hsound.gathered_eq hg, hordered.gathered_eq hgathered]

namespace SnapshotBuilder

variable {b : SnapshotBuilder} {w w₁ : Workspace σ} {data : Bytes} {m : Market}

theorem steady_marketData (steady : Steady source w.source) (b : SnapshotBuilder) :
    Steady source ((b.marketData source).run w).2.source := by
  cases hp : b.pinned with
  | some data =>
    rw [marketData_of_pinned source hp]
    exact steady
  | none =>
    rw [marketData_of_unpinned source hp]
    exact steady.next b.address

theorem assembleBy_eq_assemble (steady : Steady source w.source) {schedule : List Turn}
    {result : Except SnapshotError Market} {w' : Workspace σ}
    (h : (b.assembleBy source schedule data).run w = (some result, w')) :
    result = ((b.assemble source data).run w).1 ∧
      w'.cache.SameContent ((b.assemble source data).run w).2.cache := by
  cases hm : decodeMarket data with
  | error e =>
    unfold assembleBy at h
    unfold assemble
    rw [hm] at h ⊢
    obtain rfl : w = w' := congrArg Prod.snd h
    exact ⟨(Option.some.inj (congrArg Prod.fst h)).symm, .refl _⟩
  | ok m =>
    cases hn : b.options.needsDecimals with
    | false =>
      unfold assembleBy at h
      unfold assemble
      rw [hm, hn] at h ⊢
      obtain rfl : w = w' := congrArg Prod.snd h
      exact ⟨(Option.some.inj (congrArg Prod.fst h)).symm, .refl _⟩
    | true =>
      obtain ⟨es, hassemble⟩ := assemble_run source b w hm hn
      rw [assembleBy_of_needed source schedule w hm hn] at h
      rw [hassemble]
      obtain ⟨hgathered, hworkspace⟩ := Prod.mk.inj h
      obtain ⟨g, hg, hattach⟩ := Option.map_eq_some_iff.mp hgathered
      have hrun : (gatherBy source b.options m.toMarketRecord schedule).run w = (some g, w') :=
        Prod.ext hg hworkspace
      obtain ⟨rfl, hcontent⟩ := gatherBy_eq_gather steady b.options m hrun
      exact ⟨hattach.symm, hcontent⟩

theorem exists_assembleBy (source : Source σ) (b : SnapshotBuilder) {schedule : List Turn}
    (hs : ∀ t, 3 ≤ schedule.count t) (data : Bytes) (w : Workspace σ) :
    ∃ result, ((b.assembleBy source schedule data).run w).1 = some result := by
  cases hm : decodeMarket data with
  | error e =>
    unfold assembleBy
    rw [hm]
    exact ⟨_, rfl⟩
  | ok m =>
    cases hn : b.options.needsDecimals with
    | false =>
      unfold assembleBy
      rw [hm, hn]
      exact ⟨_, rfl⟩
    | true =>
      rw [assembleBy_of_needed source schedule w hm hn]
      obtain ⟨g, hg⟩ := Race.exists_gathered_of_count source b.options m.toMarketRecord w hs
      exact ⟨_, congrArg (Option.map fun g => g.attach m) hg⟩

end SnapshotBuilder

/-- If the source answers by address, a build ends the same way in every order of the steps of its
requests and of their answers: with the result of the build that makes its requests one after
another, and with the decimals that it leaves in the cache. Every order that gives each request its
three steps comes to an end. -/
theorem buildBy_eq_build (source : Source σ) (b : SnapshotBuilder) (w : Workspace σ)
    (steady : Steady source w.source) (schedule : List Turn) :
    (∀ result w', (b.buildBy source schedule).run w = (some result, w') →
      result = ((b.build source).run w).1 ∧
        w'.cache.SameContent ((b.build source).run w).2.cache) ∧
    ((∀ t, 3 ≤ schedule.count t) →
      ∃ result w', (b.buildBy source schedule).run w = (some result, w')) := by
  have hsteady := SnapshotBuilder.steady_marketData steady b
  rcases hdata : (b.marketData source).run w with ⟨fetched, w₁⟩
  rw [hdata] at hsteady
  cases fetched with
  | error e =>
    rw [SnapshotBuilder.buildBy, Step.run_bind, build_run_eq, hdata]
    refine ⟨?_, fun _ => ⟨_, _, rfl⟩⟩
    intro result w' h
    obtain rfl : w₁ = w' := congrArg Prod.snd h
    exact ⟨(Option.some.inj (congrArg Prod.fst h)).symm, .refl _⟩
  | ok data =>
    rw [SnapshotBuilder.buildBy_of_marketData schedule hdata,
      SnapshotBuilder.build_of_marketData_eq hdata]
    constructor
    · intro result w' h
      obtain ⟨hresult, hworkspace⟩ := Prod.mk.inj h
      obtain ⟨ended, hended, rfl⟩ := Option.map_eq_some_iff.mp hresult
      have hrun : (b.assembleBy source schedule data).run w₁ = (some ended, w') :=
        Prod.ext hended hworkspace
      obtain ⟨rfl, hcontent⟩ := SnapshotBuilder.assembleBy_eq_assemble hsteady hrun
      exact ⟨rfl, hcontent⟩
    · intro hs
      obtain ⟨ended, hended⟩ := b.exists_assembleBy source hs data w₁
      rw [hended]
      exact ⟨_, _, rfl⟩

section Twins

theorem steady_of_unchanging {source : Source σ} (h : ∀ address s, (source address s).2 = s)
    (s : σ) : Steady source s := by
  intro asked address
  have hsame : sourceAfter source asked s = s := by
    induction asked with
    | nil => rfl
    | cons a asked ih =>
      change sourceAfter source asked (source a s).2 = s
      rw [h, ih]
  rw [hsame]

/-- Both lookups fetch the one mint, which a build in order fetches once, and all is the same. -/
theorem buildBy_eq_build_of_twins :
    ∃ result w', (twinBuilder.buildBy sampleSource rounds).run sampleWorkspace = (some result, w') ∧
      w'.fetches.length = 4 ∧
      ((twinBuilder.build sampleSource).run sampleWorkspace).2.fetches.length = 3 ∧
      result = ((twinBuilder.build sampleSource).run sampleWorkspace).1 ∧
      w'.cache.SameContent ((twinBuilder.build sampleSource).run sampleWorkspace).2.cache := by
  have steady : Steady sampleSource sampleWorkspace.source :=
    steady_of_unchanging (fun _ _ => rfl) _
  have hrounds : ∀ t, 3 ≤ rounds.count t := by
    intro t
    rcases t with role | part
    · cases role <;> decide
    · cases part <;> decide
  obtain ⟨hsame, hends⟩ := buildBy_eq_build sampleSource twinBuilder sampleWorkspace steady rounds
  obtain ⟨result, w', hrun⟩ := hends hrounds
  have hraced : ((twinBuilder.buildBy sampleSource rounds).run sampleWorkspace).2.fetches.length =
      4 := by decide +kernel
  have hordered : ((twinBuilder.build sampleSource).run sampleWorkspace).2.fetches.length = 3 := by
    decide +kernel
  rw [hrun] at hraced
  exact ⟨result, w', hrun, hraced, hordered, hsame result w' hrun⟩

end Twins

end SerumDex
