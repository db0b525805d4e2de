import SerumDex.Proofs.DeskInvariant

namespace SerumDex

variable {σ : Type} {source : Source σ}

theorem Market.replaceLive_of_sameFixed {m fresh : Market} (h : m.SameFixed fresh) :
    m.replaceLive fresh = fresh := by
  obtain ⟨hrecord, hflags, hbase, hquote⟩ := h
  cases m
  cases fresh
  simp only at hrecord hflags hbase hquote
  rw [hrecord, hflags, hbase, hquote]
  rfl

/-- A builder that asks for decimals as it did before finds the fixed fields of its market again. -/
theorem Held.sameFixed_of_build {d : Desk σ} {r : Issued} {b b' : SnapshotBuilder} {w : Workspace σ}
    {fresh : Market} (hr : Held d r) (hb : d.builders[r.builder]? = some b)
    (ho : b.options.needsDecimals = r.options.needsDecimals)
    (h : (b.build source).run d.workspace = ((.ok fresh, b'), w)) : r.market.SameFixed fresh := by
  obtain ⟨hrecord, hflags⟩ := hr.record_of_build hb h
  obtain ⟨_, _, _, hfresh⟩ := build_ok h
  cases hn : r.options.needsDecimals with
  | true =>
    have hcache : d.workspace.cache.Extends w.cache := (Desk.grows_call hb h []).cache
    obtain ⟨hbase, hquote⟩ := (hr.resolved hn).extends hcache
    obtain ⟨hbase', hquote'⟩ := hfresh.resolved (ho.trans hn)
    rw [hrecord] at hbase' hquote'
    exact ⟨hrecord, hflags, Option.some.inj (hbase'.symm.trans hbase),
      Option.some.inj (hquote'.symm.trans hquote)⟩
  | false =>
    obtain ⟨hbase, hquote⟩ := hr.unresolved hn
    obtain ⟨hbase', hquote', _⟩ := hfresh.unresolved (ho.trans hn)
    exact ⟨hrecord, hflags, hbase'.trans hbase.symm, hquote'.trans hquote.symm⟩

/-- What a reload of a market comes to if the market is what a build hands out in its place. -/
def rebuilt (m : Market) :
    Except SnapshotError Market × SnapshotBuilder →
      Except SnapshotError Unit × Market × SnapshotBuilder
  | (.ok fresh, b) => (.ok (), fresh, b)
  | (.error e, b) => (.error e, m, b)

/-- After every run, a reload of a market by the builder that handed it out turns it into the market
that a build would hand out in its place, and it fails exactly if that build would, with the same
error. Of the options it is enough that they ask for decimals as they did before. -/
theorem reload_run_eq_build {d : Desk σ} (hd : d.Reachable source) {r : Issued}
    (hr : r ∈ d.issued) {b : SnapshotBuilder} (hb : d.builders[r.builder]? = some b)
    (ho : b.options.needsDecimals = r.options.needsDecimals) :
    (b.reload source r.market).run d.workspace =
      ((b.build source).run d.workspace).map (rebuilt r.market) id := by
  rcases h : (b.build source).run d.workspace with ⟨⟨result, b'⟩, w⟩
  cases result with
  | error e => exact reload_of_error h r.market
  | ok fresh =>
    have hsame := (hd.held r hr).sameFixed_of_build hb ho h
    rw [reload_of_ok h, Market.replaceLive_of_sameFixed hsame]
    rfl

/-- A market with books was built, its mints changed, and another builder failed. -/
def changedDesk : Desk UInt8 :=
  sampleRun [.choose 0 ⟨true, false, false⟩, .build 0, .world 9, .launch (sampleAddress 0),
    .build 1]

theorem reload_run_eq_build_of_changed :
    ∃ (r : Issued) (b : SnapshotBuilder), changedDesk.builders[r.builder]? = some b ∧
      (b.reload sampleSource r.market).run changedDesk.workspace =
        ((b.build sampleSource).run changedDesk.workspace).map (rebuilt r.market) id := by
  have hissued : changedDesk.issued[0]?.map (fun r => (r.builder, r.options)) =
      some (0, ⟨true, false, false⟩) := by decide +kernel
  have hbuilders : changedDesk.builders[0]?.map SnapshotBuilder.options =
      some ⟨true, false, false⟩ := by decide +kernel
  obtain ⟨r, hr, hparts⟩ := Option.map_eq_some_iff.mp hissued
  obtain ⟨b, hb, hoptions⟩ := Option.map_eq_some_iff.mp hbuilders
  have hbuilder : r.builder = 0 := congrArg Prod.fst hparts
  have ho : b.options = r.options := hoptions.trans (congrArg Prod.snd hparts).symm
  rw [← hbuilder] at hb
  exact ⟨r, b, hb, reload_run_eq_build (reachable_sampleRun _) (List.mem_of_getElem? hr) hb
    (congrArg SnapshotOptions.needsDecimals ho)⟩

end SerumDex
