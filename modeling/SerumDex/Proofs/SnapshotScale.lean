import SerumDex.Proofs.DeskInvariant

/-! Which scale the live parts of a market carry. It is made of the lot sizes of the market and of
the decimals that the cache holds for its mints. A market that was built without any part wanted has
no decimals of its own, and a reload does not give it any, so that its scale and the scale of its
live parts part ways then. -/
namespace SerumDex

variable {σ : Type} {source : Source σ}

theorem Market.ScaledBy.unique {m : Market} {s s' : Scale} (h : m.ScaledBy s) (h' : m.ScaledBy s') :
    m.Bare ∨ s = s' := by
  cases hb : m.bidBook with
  | some book => exact .inr ((h.bids book hb).symm.trans (h'.bids book hb))
  | none =>
    cases ha : m.askBook with
    | some book => exact .inr ((h.asks book ha).symm.trans (h'.asks book ha))
    | none =>
      cases hq : m.decodedQueue with
      | some queue => exact .inr ((h.queue queue hq).symm.trans (h'.queue queue hq))
      | none => exact .inl ⟨hb, ha, hq⟩

/-- With decimals from the cache, the scale of the live parts is the one of the market. -/
theorem Market.LiveIn.scaledBy {m : Market} {cache : DecimalsCache} (h : m.LiveIn cache)
    (hm : m.Resolved cache) : m.ScaledBy m.scale := by
  rcases h with hbare | ⟨base, quote, hb, hq, hs⟩
  · exact hbare.scaledBy _
  · obtain rfl := Option.some.inj (hm.base.symm.trans hb)
    obtain rfl := Option.some.inj (hm.quote.symm.trans hq)
    exact hs

/-- Without decimals of its own a market agrees with its live parts only if zero is what the cache
holds. -/
theorem Market.LiveIn.scaledBy_iff_of_zero {m : Market} {cache : DecimalsCache}
    (h : m.LiveIn cache) (hbase : m.baseDecimals = 0) (hquote : m.quoteDecimals = 0) :
    m.ScaledBy m.scale ↔
      m.Bare ∨ (cache.get? m.baseMint = some 0 ∧ cache.get? m.quoteMint = some 0) := by
  have hscale : m.scale = ⟨0, 0, m.baseLotSize, m.quoteLotSize⟩ := by
    rw [Market.scale, hbase, hquote]
  rw [hscale]
  constructor
  · intro hm
    rcases h with hbare | ⟨base, quote, hb, hq, hs⟩
    · exact .inl hbare
    · rcases hm.unique hs with hbare | heq
      · exact .inl hbare
      · rw [hb, hq]
        exact .inr ⟨congrArg (fun s => some s.baseDecimals) heq.symm,
          congrArg (fun s => some s.quoteDecimals) heq.symm⟩
  · intro hm
    rcases hm with hbare | ⟨hb, hq⟩
    · exact hbare.scaledBy _
    · rcases h with hbare | ⟨base, quote, hb', hq', hs⟩
      · exact hbare.scaledBy _
      · obtain rfl := Option.some.inj (hb.symm.trans hb')
        obtain rfl := Option.some.inj (hq.symm.trans hq')
        exact hs

/-- Of every market that was handed out, and after every build and every reload: its live parts are
scaled by its lot sizes and the decimals of its mints; its own decimals are those of its mints if its
build wanted any part and zero if not; and its scale is the one of its live parts if its build wanted
any part, and otherwise only if no live part is there or zero is what the cache holds. -/
theorem scaledBy_scale_iff {d : Desk σ} (hd : d.Reachable source) {r : Issued} (hr : r ∈ d.issued) :
    r.market.LiveIn d.cache ∧
      (r.options.needsDecimals = true → r.market.Resolved d.cache) ∧
      (r.options.needsDecimals = false →
        r.market.baseDecimals = 0 ∧ r.market.quoteDecimals = 0) ∧
      (r.market.ScaledBy r.market.scale ↔
        r.options.needsDecimals = true ∨ r.market.Bare ∨
          (d.cache.get? r.market.baseMint = some 0 ∧
            d.cache.get? r.market.quoteMint = some 0)) := by
  have hheld := hd.held r hr
  refine ⟨hheld.live, hheld.resolved, hheld.unresolved, ?_⟩
  cases hn : r.options.needsDecimals with
  | true =>
    constructor
    · intro _
      exact .inl rfl
    · intro _
      exact hheld.live.scaledBy (hheld.resolved hn)
  | false =>
    obtain ⟨hbase, hquote⟩ := hheld.unresolved hn
    rw [hheld.live.scaledBy_iff_of_zero hbase hquote]
    constructor
    · exact .inr
    · intro h
      rcases h with hn' | h
      · exact nomatch hn'
      · exact h

/-- Books were wanted from the start, and the mints change before the reload. -/
theorem scaledBy_scale_of_books_wanted :
    ∃ r ∈ (sampleRun [.choose 0 ⟨true, false, false⟩, .build 0, .world 9, .reload 0 0]).issued,
      r.market.bidBook.isSome = true ∧ r.market.ScaledBy r.market.scale := by
  have hrun : (sampleRun [.choose 0 ⟨true, false, false⟩, .build 0, .world 9,
      .reload 0 0]).issued[0]?.map (fun r => (r.options.needsDecimals, r.market.bidBook.isSome)) =
        some (true, true) := by decide +kernel
  obtain ⟨r, hr, hparts⟩ := Option.map_eq_some_iff.mp hrun
  have hmem := List.mem_of_getElem? hr
  refine ⟨r, hmem, congrArg Prod.snd hparts, ?_⟩
  apply (scaledBy_scale_iff (reachable_sampleRun _) hmem).2.2.2.mpr
  exact .inl (congrArg Prod.fst hparts)

/-- Books are wanted only after the build: they are scaled by six decimals, the market by none. -/
theorem not_scaledBy_scale_of_books_later :
    ¬ ∀ r ∈ (sampleRun [.build 0, .choose 0 ⟨true, false, false⟩, .reload 0 0]).issued,
      r.market.ScaledBy r.market.scale := by
  intro h
  have hrun : (sampleRun [.build 0, .choose 0 ⟨true, false, false⟩,
      .reload 0 0]).issued[0]?.map (fun r => (r.market.scale, r.market.bidBook.map (·.scale))) =
        some (⟨0, 0, 10, 1⟩, some ⟨6, 6, 10, 1⟩) := by decide +kernel
  obtain ⟨r, hr, hparts⟩ := Option.map_eq_some_iff.mp hrun
  obtain ⟨book, hbook, hscale⟩ := Option.map_eq_some_iff.mp (congrArg Prod.snd hparts)
  have hsame := (h r (List.mem_of_getElem? hr)).bids book hbook
  rw [hscale] at hsame
  have hsix : (⟨6, 6, 10, 1⟩ : Scale) = ⟨0, 0, 10, 1⟩ := hsame.trans (congrArg Prod.fst hparts)
  exact absurd hsix (by decide)

end SerumDex
