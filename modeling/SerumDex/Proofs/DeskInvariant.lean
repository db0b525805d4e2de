import SerumDex.Proofs.Desk

namespace SerumDex

variable {σ : Type} {source : Source σ}

def Desk.pinned (d : Desk σ) (i : Nat) : Option Bytes :=
  (d.builders[i]?).bind SnapshotBuilder.pinned

namespace Desk

/-- Later knowledge: what the cache holds and what the builders have pinned is still there. -/
structure Grows (d d' : Desk σ) : Prop where
  cache : d.cache.Extends d'.cache
  pinned : ∀ (i : Nat) (data : Bytes), d.pinned i = some data → d'.pinned i = some data

theorem Grows.refl (d : Desk σ) : d.Grows d := ⟨DecimalsCache.Extends.refl _, fun _ _ h => h⟩

theorem pinned_of_builder {d : Desk σ} {i : Nat} {b : SnapshotBuilder}
    (h : d.builders[i]? = some b) : d.pinned i = b.pinned := by
  rw [pinned, h, Option.bind_some]

theorem pinned_set {d d' : Desk σ} {i : Nat} {b b' : SnapshotBuilder} (h : d.builders[i]? = some b)
    (hd : d'.builders = d.builders.set i b') (j : Nat) :
    d'.pinned j = if i = j then b'.pinned else d.pinned j := by
  have hi : i < d.builders.length := (List.getElem?_eq_some_iff.mp h).1
  by_cases hj : i = j
  · rw [if_pos hj, pinned, hd, ← hj, List.getElem?_set_self hi, Option.bind_some]
  · rw [if_neg hj, pinned, hd, List.getElem?_set_ne hj, pinned]

/-- A call of a builder, whatever is done to the markets. -/
theorem grows_call {d : Desk σ} {i : Nat} {b b' : SnapshotBuilder} {w : Workspace σ}
    {result : Except SnapshotError Market} (hb : d.builders[i]? = some b)
    (h : (b.build source).run d.workspace = ((result, b'), w)) (issued : List Issued) :
    d.Grows ⟨w, d.builders.set i b', issued⟩ := by
  constructor
  · have hcache := (frame_extends source).build b d.workspace
    rw [h] at hcache
    exact hcache
  · intro j data hj
    rw [pinned_set hb rfl]
    by_cases hij : i = j
    · rw [← hij, pinned_of_builder hb] at hj
      have hkept := build_keeps_pinned source hj d.workspace
      rw [h] at hkept
      rwa [if_pos hij]
    · rwa [if_neg hij]

theorem grows_launch (d : Desk σ) (address : Address) :
    d.Grows { d with builders := d.builders ++ [SnapshotBuilder.new address] } := by
  refine ⟨DecimalsCache.Extends.refl _, ?_⟩
  intro i data h
  obtain ⟨b, hb, hdata⟩ := Option.bind_eq_some_iff.mp h
  have hi : i < d.builders.length := (List.getElem?_eq_some_iff.mp hb).1
  rw [pinned, List.getElem?_append_left hi, hb, Option.bind_some, hdata]

theorem grows_choose (d : Desk σ) (j : Nat) (o : SnapshotOptions) :
    d.Grows { d with builders := d.builders.modify j fun b => b.withOptions o } := by
  refine ⟨DecimalsCache.Extends.refl _, ?_⟩
  intro i data h
  obtain ⟨b, hb, hdata⟩ := Option.bind_eq_some_iff.mp h
  rw [pinned, List.getElem?_modify, hb]
  change (if j = i then b.withOptions o else b).pinned = some data
  by_cases hj : j = i
  · rwa [if_pos hj]
  · rwa [if_neg hj]

theorem grows_effect {d d' : Desk σ} (h : Effect source d d') : d.Grows d' := by
  cases h with
  | idle => exact Grows.refl d
  | world s => exact ⟨DecimalsCache.Extends.refl _, fun _ _ h => h⟩
  | launch address => exact d.grows_launch address
  | choose i o => exact d.grows_choose i o
  | copied r hr => exact ⟨DecimalsCache.Extends.refl _, fun _ _ h => h⟩
  | called hb result h => exact grows_call hb h _
  | built hb h => exact grows_call hb h _
  | reloaded k r hr hb h => exact grows_call hb h _

end Desk

namespace Market

/-- Whatever live part is there carries the lot sizes of the market and the decimals that a cache
holds for its mints. -/
def LiveIn (m : Market) (cache : DecimalsCache) : Prop :=
  m.Bare ∨ ∃ base quote, cache.get? m.baseMint = some base ∧ cache.get? m.quoteMint = some quote ∧
    m.ScaledBy ⟨base, quote, m.baseLotSize, m.quoteLotSize⟩

theorem LiveIn.extends {m : Market} {cache cache' : DecimalsCache} (h : m.LiveIn cache)
    (hc : cache.Extends cache') : m.LiveIn cache' := by
  rcases h with hbare | ⟨base, quote, hb, hq, hs⟩
  · exact .inl hbare
  · exact .inr ⟨base, quote, hc.get? hb, hc.get? hq, hs⟩

theorem LiveIn.replaceLive {m fresh : Market} {cache : DecimalsCache} (h : fresh.LiveIn cache)
    (hr : fresh.toMarketRecord = m.toMarketRecord) : (m.replaceLive fresh).LiveIn cache := by
  rcases h with hbare | ⟨base, quote, hb, hq, hs⟩
  · exact .inl ⟨hbare.bids, hbare.asks, hbare.queue⟩
  · rw [hr] at hb hq hs
    exact .inr ⟨base, quote, hb, hq, ⟨hs.bids, hs.asks, hs.queue⟩⟩

end Market

theorem Snapshot.liveIn {data : Bytes} {o : SnapshotOptions} {cache : DecimalsCache} {m : Market}
    (h : Snapshot data o cache m) : m.LiveIn cache := by
  cases hn : o.needsDecimals with
  | false => exact .inl (h.unresolved hn).2.2
  | true =>
    obtain ⟨hb, hq⟩ := h.resolved hn
    exact .inr ⟨m.baseDecimals, m.quoteDecimals, hb, hq, h.scaled⟩

/-- What holds of a market that was handed out, from then on. -/
structure Held (d : Desk σ) (r : Issued) : Prop where
  account : ∃ data, d.pinned r.builder = some data ∧ r.market.DecodedFrom data
  resolved : r.options.needsDecimals = true → r.market.Resolved d.cache
  unresolved : r.options.needsDecimals = false →
    r.market.baseDecimals = 0 ∧ r.market.quoteDecimals = 0
  live : r.market.LiveIn d.cache

namespace Held

theorem grows {d d' : Desk σ} {r : Issued} (h : Held d r) (hd : d.Grows d') : Held d' r := by
  obtain ⟨data, hp, hm⟩ := h.account
  refine ⟨⟨data, hd.pinned _ _ hp, hm⟩, ?_, h.unresolved, h.live.extends hd.cache⟩
  intro hn
  exact (h.resolved hn).extends hd.cache

variable {d : Desk σ} {b b' : SnapshotBuilder} {w : Workspace σ}

theorem built {i : Nat} {m : Market} (hb : d.builders[i]? = some b)
    (h : (b.build source).run d.workspace = ((.ok m, b'), w)) (issued : List Issued) :
    Held ⟨w, d.builders.set i b', issued⟩ ⟨i, b.options, m⟩ := by
  obtain ⟨data, hb', _, hm⟩ := build_ok h
  refine ⟨⟨data, ?_, hm.account⟩, hm.resolved, fun hn => ?_, hm.liveIn⟩
  · rw [Desk.pinned_set hb rfl, if_pos rfl, hb']
  · exact ⟨(hm.unresolved hn).1, (hm.unresolved hn).2.1⟩

theorem record_of_build {r : Issued} {fresh : Market} (hr : Held d r)
    (hb : d.builders[r.builder]? = some b)
    (h : (b.build source).run d.workspace = ((.ok fresh, b'), w)) :
    fresh.toMarketRecord = r.market.toMarketRecord ∧ fresh.flags = r.market.flags := by
  obtain ⟨data, hp, hm⟩ := hr.account
  rw [Desk.pinned_of_builder hb] at hp
  obtain ⟨data', _, hpinned, hfresh⟩ := build_ok h
  rw [hpinned data hp] at hfresh
  exact hm.unique hfresh.account

theorem reloaded {r : Issued} {fresh : Market} (hr : Held d r)
    (hb : d.builders[r.builder]? = some b)
    (h : (b.build source).run d.workspace = ((.ok fresh, b'), w)) (issued : List Issued) :
    Held ⟨w, d.builders.set r.builder b', issued⟩
      { r with market := r.market.replaceLive fresh } := by
  have hkept := hr.grows (Desk.grows_call hb h issued)
  -- Both markets come from the pinned bytes, so the fresh live parts are scaled by the old record.
  obtain ⟨hrecord, _⟩ := hr.record_of_build hb h
  obtain ⟨data, hp, m₀, hd, hrec, hflags⟩ := hkept.account
  obtain ⟨_, _, _, hm⟩ := build_ok h
  refine ⟨⟨data, hp, m₀, hd, hrec, hflags⟩, fun hn => ?_, hkept.unresolved, ?_⟩
  · exact ⟨(hkept.resolved hn).base, (hkept.resolved hn).quote⟩
  · exact hm.liveIn.replaceLive hrecord

end Held

namespace Desk

theorem held_effect {d d' : Desk σ} (h : Effect source d d') (hd : ∀ r ∈ d.issued, Held d r) :
    ∀ r ∈ d'.issued, Held d' r := by
  have hkept : ∀ r ∈ d.issued, Held d' r := fun r hr => (hd r hr).grows (grows_effect h)
  cases h with
  | idle => exact hkept
  | world s => exact hkept
  | launch address => exact hkept
  | choose i o => exact hkept
  | called hb result h => exact hkept
  | copied r hr =>
    intro r' hr'
    rcases List.mem_append.mp hr' with hold | hnew
    · exact hkept r' hold
    · rw [List.mem_singleton.mp hnew]
      exact hkept r hr
  | built hb h =>
    intro r hr
    rcases List.mem_append.mp hr with hold | hnew
    · exact hkept r hold
    · rw [List.mem_singleton.mp hnew]
      exact Held.built hb h _
  | reloaded k r hr hb h =>
    intro r' hr'
    rcases List.mem_or_eq_of_mem_set hr' with hold | hnew
    · exact hkept r' hold
    · rw [hnew]
      exact (hd r hr).reloaded hb h _

/-- Every market at a desk is held, whatever came before. -/
theorem Reachable.held {d : Desk σ} (h : d.Reachable source) : ∀ r ∈ d.issued, Held d r := by
  obtain ⟨s, cache, actions, rfl⟩ := h
  -- The induction is on the actions and starts from any desk whose markets are held.
  have hrun (d : Desk σ) (hd : ∀ r ∈ d.issued, Held d r) :
      ∀ r ∈ (d.run source actions).issued, Held (d.run source actions) r := by
    induction actions generalizing d with
    | nil => exact hd
    | cons a actions ih =>
      exact ih (d.perform source a) (held_effect (d.perform_effect a) hd)
  exact hrun (opening s cache) (fun r hr => nomatch hr)

end Desk

end SerumDex
