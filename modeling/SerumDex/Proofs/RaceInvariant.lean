import Mathlib.Data.List.Nodup
import SerumDex.Proofs.RaceTurns

namespace SerumDex

variable {σ : Type} {source : Source σ}

section Alone

variable {w : Workspace σ} {mint : Address}

variable (source) in
/-- What the lookup of a mint finds if nothing else runs. -/
def lookupAlone (w : Workspace σ) (mint : Address) : Except SnapshotError UInt8 :=
  ((lookupDecimals source mint).run w).1

variable (source) in
theorem lookupAlone_of_known {d : UInt8} (h : w.cache.get? mint = some d) :
    lookupAlone source w mint = .ok d := by
  rw [lookupAlone, lookupDecimals_run_eq]
  by_cases hm : mint = Address.wrappedSol
  · rw [hm] at h
    rw [hm, startLookup_wrappedSol, DecimalsCache.insert_of_some h]
  · rw [startLookup_of_ne hm, h]

variable (source) in
theorem lookupAlone_wrappedSol (h : w.cache.get? Address.wrappedSol = none) :
    lookupAlone source w Address.wrappedSol = .ok wrappedSolDecimals := by
  rw [lookupAlone, lookupDecimals_run_eq, startLookup_wrappedSol, DecimalsCache.insert_of_none h]

variable (source) in
theorem lookupAlone_of_unknown (hm : mint ≠ Address.wrappedSol)
    (hn : w.cache.get? mint = none) :
    lookupAlone source w mint = (finishLookup mint (source mint w.source).1 w.cache).1 := by
  rw [lookupAlone, lookupDecimals_run_eq, startLookup_of_ne hm, hn]

end Alone

/-- A cache that has gained some entries since a workspace: each is for a mint of the market that
had none, no mint has two, and each holds what a lookup alone finds. -/
structure Gained (source : Source σ) (m : MarketRecord) (w : Workspace σ) (cache : DecimalsCache)
    (new : List (Address × UInt8)) : Prop where
  entries : cache.entries = w.cache.entries ++ new
  nodup : (new.map Prod.fst).Nodup
  unknown : ∀ e ∈ new, w.cache.get? e.1 = none
  mints : ∀ e ∈ new, ∃ role : MintRole, role.mint m = e.1
  found : ∀ e ∈ new, lookupAlone source w e.1 = .ok e.2

namespace Gained

variable {m : MarketRecord} {w : Workspace σ} {cache : DecimalsCache}
  {new : List (Address × UInt8)}

theorem cache_extends (h : Gained source m w cache new) : w.cache.Extends cache :=
  ⟨new, h.entries.symm⟩

theorem get? (h : Gained source m w cache new) (mint : Address) :
    cache.get? mint = (w.cache.get? mint).or (new.lookup mint) := by
  rw [DecimalsCache.get?, h.entries, List.lookup_append]
  rfl

/-- Whatever the cache holds is what a lookup alone would have found. -/
theorem alone_of_get? (h : Gained source m w cache new) {mint : Address} {d : UInt8}
    (hd : cache.get? mint = some d) : lookupAlone source w mint = .ok d := by
  rw [h.get?] at hd
  cases hw : w.cache.get? mint with
  | some kept =>
    rw [hw, Option.some_or] at hd
    exact lookupAlone_of_known source (hw.trans hd)
  | none =>
    rw [hw, Option.none_or] at hd
    exact h.found (mint, d) ((lookup_eq_some_iff_mem h.nodup mint d).mp hd)

/-- An insertion of what a lookup alone finds keeps to this, and the value that is kept is that one,
whoever came first. -/
theorem insert (h : Gained source m w cache new) (role : MintRole) {d : UInt8}
    (hd : w.cache.get? (role.mint m) = none → lookupAlone source w (role.mint m) = .ok d) :
    lookupAlone source w (role.mint m) = .ok (cache.insert (role.mint m) d).1 ∧
      ∃ new', Gained source m w (cache.insert (role.mint m) d).2 new' := by
  cases hc : cache.get? (role.mint m) with
  | some kept =>
    rw [DecimalsCache.insert_of_some hc]
    exact ⟨h.alone_of_get? hc, new, h⟩
  | none =>
    rw [DecimalsCache.insert_of_none hc]
    have hor := hc
    rw [h.get?, Option.or_eq_none_iff] at hor
    obtain ⟨hw, hnew⟩ := hor
    refine ⟨hd hw, new ++ [(role.mint m, d)], ?_, ?_, ?_, ?_, ?_⟩
    · simp only [h.entries, List.append_assoc]
    · -- The mint was not in the cache, so none of the gained entries is for it.
      rw [List.map_append]
      refine List.nodup_append.mpr ⟨h.nodup, List.nodup_singleton _, ?_⟩
      intro mint hmint mint' hmint'
      obtain ⟨e, he, rfl⟩ := List.mem_map.mp hmint
      have hne := List.lookup_eq_none_iff.mp hnew e he
      rw [List.mem_singleton.mp hmint']
      exact (bne_iff_ne.mp hne).symm
    · intro e he
      rcases List.mem_append.mp he with he | he
      · exact h.unknown e he
      · rwa [List.mem_singleton.mp he]
    · intro e he
      rcases List.mem_append.mp he with he | he
      · exact h.mints e he
      · exact ⟨role, (congrArg Prod.fst (List.mem_singleton.mp he)).symm⟩
    · intro e he
      rcases List.mem_append.mp he with he | he
      · exact h.found e he
      · rw [List.mem_singleton.mp he]
        exact hd hw

end Gained

/-- A workspace in the midst of the requests that were begun in another one. -/
structure Amid (source : Source σ) (m : MarketRecord) (w v : Workspace σ) : Prop where
  asked : ∃ asked, v.source = sourceAfter source asked w.source
  gained : ∃ new, Gained source m w v.cache new

namespace Amid

variable {m : MarketRecord} {w v : Workspace σ}

theorem refl (w : Workspace σ) : Amid source m w w := by
  refine ⟨⟨[], rfl⟩, [], (List.append_nil _).symm, List.nodup_nil, ?_, ?_, ?_⟩ <;>
    exact fun e he => nomatch he

theorem cache_extends (h : Amid source m w v) : w.cache.Extends v.cache := by
  obtain ⟨new, hnew⟩ := h.gained
  exact hnew.cache_extends

/-- Every answer is the one that was to be had from the first. -/
theorem answer (h : Amid source m w v) (steady : Steady source w.source) (address : Address) :
    (source address v.source).1 = (source address w.source).1 := by
  obtain ⟨asked, hasked⟩ := h.asked
  rw [hasked]
  exact steady asked address

theorem ask (h : Amid source m w v) (purpose : Purpose) (address : Address) :
    Amid source m w ((Step.ask source purpose address).run v).2 := by
  obtain ⟨asked, hasked⟩ := h.asked
  refine ⟨⟨asked ++ [address], ?_⟩, h.gained⟩
  rw [sourceAfter_append_singleton, ← hasked]
  rfl

end Amid

/-- Where a lookup that has come this far stands: only unknown mints are fetched, the answer on its
way is the one of the source, and the outcome is that of a lookup alone. -/
def LookupPhase.Sound (source : Source σ) (w : Workspace σ) (mint : Address)
    (cache : DecimalsCache) : LookupPhase → Prop
  | idle => True
  | missed => mint ≠ Address.wrappedSol ∧ w.cache.get? mint = none
  | asked answer => mint ≠ Address.wrappedSol ∧ w.cache.get? mint = none ∧
      answer = (source mint w.source).1
  | done outcome => outcome = lookupAlone source w mint ∧
      ∀ d, outcome = .ok d → cache.get? mint = some d

namespace LookupPhase

variable {m : MarketRecord} {w v : Workspace σ} {mint : Address}

theorem Sound.extends_cache {cache cache' : DecimalsCache} {phase : LookupPhase}
    (h : phase.Sound source w mint cache) (hc : cache.Extends cache') :
    phase.Sound source w mint cache' := by
  cases phase with
  | idle => exact h
  | missed => exact h
  | asked answer => exact h
  | done outcome => exact ⟨h.1, fun d hd => hc.get? (h.2 d hd)⟩

/-- A lookup that enters what a lookup alone finds is sound, whoever has come first. -/
theorem sound_insert (hv : Amid source m w v) (role : MintRole) {d : UInt8}
    (hd : w.cache.get? (role.mint m) = none → lookupAlone source w (role.mint m) = .ok d) :
    Amid source m w { v with cache := (v.cache.insert (role.mint m) d).2 } ∧
      (done (.ok (v.cache.insert (role.mint m) d).1)).Sound source w (role.mint m)
        (v.cache.insert (role.mint m) d).2 := by
  obtain ⟨new, hnew⟩ := hv.gained
  obtain ⟨hkept, hgained⟩ := hnew.insert role hd
  refine ⟨⟨hv.asked, hgained⟩, hkept.symm, ?_⟩
  intro d' hd'
  rw [← Except.ok.inj hd']
  exact DecimalsCache.get?_insert_self _ _ _

/-- What becomes of a lookup by a turn is sound again, in the midst of all the others. -/
theorem Turned.sound {role : MintRole} {phase : LookupPhase} {out : LookupPhase × Workspace σ}
    (steady : Steady source w.source) (hv : Amid source m w v)
    (t : Turned source (role.mint m) v phase out)
    (h : phase.Sound source w (role.mint m) v.cache) :
    Amid source m w out.2 ∧ out.1.Sound source w (role.mint m) out.2.cache := by
  obtain ⟨new, hnew⟩ := hv.gained
  cases t with
  | wrappedSol hm =>
    -- Wrapped SOL is entered in this very turn, unless the other lookup has entered it.
    apply sound_insert hv role
    intro hn
    rw [hm] at hn ⊢
    exact lookupAlone_wrappedSol source hn
  | cached hm d hd =>
    refine ⟨⟨hv.asked, hv.gained⟩, (hnew.alone_of_get? hd).symm, ?_⟩
    intro d' hd'
    rw [← Except.ok.inj hd']
    exact hd
  | missed hm hn =>
    -- A mint that is unknown by now was unknown at the start.
    have hstart : w.cache.get? (role.mint m) = none := by
      cases hw : w.cache.get? (role.mint m) with
      | none => rfl
      | some d => exact nomatch hn.symm.trans (hv.cache_extends.get? hw)
    exact ⟨⟨hv.asked, hv.gained⟩, hm, hstart⟩
  | asked => exact ⟨hv.ask .decimals _, h.1, h.2, hv.answer steady _⟩
  | failed answer e he =>
    obtain ⟨hm, hn, ha⟩ := h
    have halone := lookupAlone_of_unknown source hm hn
    rw [← ha, finishLookup_of_failure he] at halone
    exact ⟨hv, halone.symm, fun d hd => nomatch hd⟩
  | learned answer d he hd =>
    obtain ⟨hm, hn, ha⟩ := h
    have halone := lookupAlone_of_unknown source hm hn
    rw [← ha, finishLookup_of_decimals hd, DecimalsCache.insert_of_none hn] at halone
    exact sound_insert hv role fun _ => halone
  | rested outcome => exact ⟨hv, h⟩

end LookupPhase

/-- Where a fetch that has come this far stands, with the outcome of one that is made alone. -/
def LivePhase.Sound (source : Source σ) (w : Workspace σ) (wanted : Bool) (address : Address) :
    LivePhase → Prop
  | idle => True
  | asked answer => wanted = true ∧ answer = (source address w.source).1
  | done outcome => outcome = ((fetchIf source wanted address).run w).1

theorem LivePhase.Turned.sound {m : MarketRecord} {w v : Workspace σ} {wanted : Bool}
    {address : Address} {phase : LivePhase} {out : LivePhase × Workspace σ}
    (steady : Steady source w.source) (hv : Amid source m w v)
    (t : Turned source wanted address v phase out) (h : phase.Sound source w wanted address) :
    Amid source m w out.2 ∧ out.1.Sound source w wanted address := by
  cases t with
  | skipped hw =>
    subst hw
    exact ⟨hv, rfl⟩
  | asked hw => exact ⟨hv.ask .live address, hw, hv.answer steady address⟩
  | heard answer =>
    obtain ⟨rfl, ha⟩ := h
    refine ⟨hv, ?_⟩
    change some (answer.mapError SnapshotError.fetch) =
      some ((source address w.source).1.mapError SnapshotError.fetch)
    rw [ha]
  | rested outcome => exact ⟨hv, h⟩

namespace Race

variable {o : SnapshotOptions} {m : MarketRecord} {w : Workspace σ} {r : Race σ}

/-- Every request stands where it would stand alone. -/
structure Sound (source : Source σ) (o : SnapshotOptions) (m : MarketRecord) (w : Workspace σ)
    (r : Race σ) : Prop where
  amid : Amid source m w r.workspace
  lookups : ∀ role, (r.lookups role).Sound source w (role.mint m) r.workspace.cache
  lives : ∀ part, (r.lives part).Sound source w (o.wants part) (part.address m)

theorem sound_start (w : Workspace σ) : (start w).Sound source o m w :=
  ⟨Amid.refl w, fun _ => trivial, fun _ => trivial⟩

theorem Sound.advanced {r' : Race σ} {e? : Option LookupEvent}
    (steady : Steady source w.source) (h : r.Sound source o m w)
    (t : r.Advanced source o m r' e?) : r'.Sound source o m w := by
  cases t with
  | lookup role t =>
    obtain ⟨hamid, hsound⟩ := t.sound steady h.amid (h.lookups role)
    refine ⟨hamid, (Function.forall_update_iff _ _).mpr ⟨hsound, ?_⟩, h.lives⟩
    -- What the other lookup has found stays in the cache, which only grows.
    intro role' _
    exact (h.lookups role').extends_cache t.cache_extends
  | live part t =>
    obtain ⟨hamid, hsound⟩ := t.sound steady h.amid (h.lives part)
    refine ⟨hamid, ?_, (Function.forall_update_iff _ _).mpr ⟨hsound, fun part' _ => h.lives part'⟩⟩
    rw [show _ = r.workspace.cache from t.cache_eq]
    exact h.lookups

theorem Sound.run (steady : Steady source w.source) (h : r.Sound source o m w)
    (schedule : List Turn) : (r.run source o m schedule).Sound source o m w :=
  run_invariant (P := fun r => r.Sound source o m w) (fun _ _ _ h t => h.advanced steady t) h
    schedule

/-- What the requests bring if each of them runs alone. -/
def gatheredAlone (source : Source σ) (o : SnapshotOptions) (m : MarketRecord) (w : Workspace σ) :
    Gathered where
  baseDecimals := lookupAlone source w m.baseMint
  quoteDecimals := lookupAlone source w m.quoteMint
  bids := ((fetchIf source (o.wants .bids) m.bids).run w).1
  asks := ((fetchIf source (o.wants .asks) m.asks).run w).1
  queue := ((fetchIf source (o.wants .queue) m.eventQueue).run w).1

/-- Once all requests are done, they have brought what each of them brings alone. -/
theorem Sound.gathered_eq (h : r.Sound source o m w) {g : Gathered} (hg : r.gathered? = some g) :
    g = gatheredAlone source o m w := by
  obtain ⟨hbase, hquote, hbids, hasks, hqueue⟩ := eq_done_of_gathered? hg
  have hb := h.lookups .base
  have hq := h.lookups .quote
  have hbids' := h.lives .bids
  have hasks' := h.lives .asks
  have hqueue' := h.lives .queue
  rw [hbase] at hb
  rw [hquote] at hq
  rw [hbids] at hbids'
  rw [hasks] at hasks'
  rw [hqueue] at hqueue'
  obtain ⟨base, quote, bids, asks, queue⟩ := g
  obtain rfl := hb.1
  obtain rfl := hq.1
  obtain rfl := hbids'
  obtain rfl := hasks'
  obtain rfl := hqueue'
  rfl

/-- Once all requests are done, the cache has gained just what the lookups of unknown mints find. -/
theorem Sound.mem_gained_iff (h : r.Sound source o m w) {g : Gathered}
    (hg : r.gathered? = some g) {new : List (Address × UInt8)}
    (hnew : Gained source m w r.workspace.cache new) (e : Address × UInt8) :
    e ∈ new ↔ w.cache.get? e.1 = none ∧ (∃ role : MintRole, role.mint m = e.1) ∧
      lookupAlone source w e.1 = .ok e.2 := by
  constructor
  · intro he
    exact ⟨hnew.unknown e he, hnew.mints e he, hnew.found e he⟩
  · rintro ⟨hn, ⟨role, hrole⟩, hfound⟩
    obtain ⟨outcome, hdone⟩ : ∃ outcome, r.lookups role = .done outcome := by
      cases role with
      | base => exact ⟨_, (eq_done_of_gathered? hg).1⟩
      | quote => exact ⟨_, (eq_done_of_gathered? hg).2.1⟩
    -- The lookup has found the decimals and entered them, and the cache did not hold them before.
    have hsound := h.lookups role
    rw [hdone, hrole] at hsound
    obtain ⟨houtcome, hget⟩ := hsound
    have hd := hget e.2 (houtcome.trans hfound)
    rw [hnew.get?, hn, Option.none_or] at hd
    exact (lookup_eq_some_iff_mem hnew.nodup e.1 e.2).mp hd

end Race

end SerumDex
