import SerumDex.Proofs.DecimalsLookup

namespace SerumDex

variable {σ α β : Type} {source : Source σ} {R : Workspace σ → Workspace σ → Prop}

/-- A relation that the steps of a build respect. A lookup counts as one step, since its fetch and
what it enters in the cache belong together. -/
structure Frame (source : Source σ) (R : Workspace σ → Workspace σ → Prop) : Prop where
  refl : ∀ w, R w w
  trans : ∀ {u v w}, R u v → R v w → R u w
  emit : ∀ e w, R w ((Step.emit e).run w).2
  ask : ∀ purpose address w, purpose ≠ .decimals → R w ((Step.ask source purpose address).run w).2
  lookup : ∀ mint w, R w ((lookupDecimals source mint).run w).2

namespace Frame

variable (h : Frame source R)

include h

theorem bind {x : Step σ α} {f : α → Step σ β} (hx : ∀ w, R w (x.run w).2)
    (hf : ∀ a w, R w ((f a).run w).2) (w : Workspace σ) : R w ((x >>= f).run w).2 :=
  h.trans (hx w) (hf _ _)

theorem emitAll (es : List LogEvent) (w : Workspace σ) : R w ((es.forM Step.emit).run w).2 := by
  induction es generalizing w with
  | nil => exact h.refl w
  | cons e es ih => exact h.bind (h.emit e) (fun _ => ih) w

theorem fetchIf (wanted : Bool) (address : Address) (w : Workspace σ) :
    R w ((fetchIf source wanted address).run w).2 := by
  cases wanted with
  | false => exact h.refl w
  | true => exact h.ask .live address w (by decide)

theorem gather (o : SnapshotOptions) (m : Market) (w : Workspace σ) :
    R w ((gather source o m).run w).2 := by
  apply h.bind (h.lookup m.baseMint)
  intro _
  apply h.bind (h.lookup m.quoteMint)
  intro _
  apply h.bind (h.fetchIf o.orderBooks m.bids)
  intro _
  apply h.bind (h.fetchIf o.orderBooks m.asks)
  intro _
  apply h.bind (h.fetchIf o.eventQueue m.eventQueue)
  intro _
  exact h.refl

theorem assemble (b : SnapshotBuilder) (data : Bytes) (w : Workspace σ) :
    R w ((b.assemble source data).run w).2 := by
  unfold SnapshotBuilder.assemble
  cases decodeMarket data with
  | error e => exact h.refl w
  | ok m =>
    cases hn : b.options.needsDecimals with
    | false =>
      apply h.bind (h.emit _)
      intro _
      exact h.refl
    | true =>
      apply h.bind (h.gather b.options m)
      intro g
      cases g.attach m with
      | error e => exact h.refl
      | ok m =>
        apply h.bind (h.emitAll _)
        intro _
        exact h.refl

theorem marketData (b : SnapshotBuilder) (w : Workspace σ) :
    R w ((b.marketData source).run w).2 := by
  unfold SnapshotBuilder.marketData
  cases b.pinned with
  | some data => exact h.refl w
  | none => exact h.ask .market b.address w (by decide)

theorem build (b : SnapshotBuilder) (w : Workspace σ) : R w ((b.build source).run w).2 := by
  apply h.bind (h.marketData b)
  intro fetched
  cases fetched with
  | error e => exact h.refl
  | ok data =>
    apply h.bind (h.assemble b data)
    intro result
    cases result <;> exact h.refl

end Frame

theorem frame_extends (source : Source σ) :
    Frame source fun w w' => w.cache.Extends w'.cache where
  refl w := DecimalsCache.Extends.refl w.cache
  trans := DecimalsCache.Extends.trans
  emit _ w := DecimalsCache.Extends.refl w.cache
  ask _ _ w _ := DecimalsCache.Extends.refl w.cache
  lookup mint w := (lookupDecimals_run source mint w).cache_extends

theorem frame_fetches (source : Source σ) :
    Frame source fun w w' => w.fetches <+: w'.fetches where
  refl _ := List.prefix_refl _
  trans h h' := h.trans h'
  emit _ _ := List.prefix_refl _
  ask _ _ _ _ := List.prefix_append _ _
  lookup mint w := (lookupDecimals_run source mint w).fetches_grow

end SerumDex
