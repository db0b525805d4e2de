import SerumDex.Proofs.BuildResult
import SerumDex.Proofs.QueueAccount

/-! The trades of a queue that was decoded. A slot is a trade for its fill bit and its paid amount,
and its price is divided by the base quantity of its side. The base quantity of a bid is the
released amount, which the choice of the trades does not look at. -/
namespace SerumDex

theorem QueueAccount.exists_decode (a : QueueAccount) (scale : Scale) :
    ∃ q, decodeEventQueue a.bytes scale = .ok q := by
  have hcount : ¬ a.slots.length < a.count.toNat := Nat.not_lt.mpr a.count_le
  unfold decodeEventQueue
  rw [a.decodeHead_bytes, a.queueCapacity_bytes, a.readCounters_bytes]
  simp only [bind, Except.bind, if_neg hcount]
  exact ⟨_, rfl⟩

/-- The trades of a decoded queue are those of its slots, wherever they lie in the ring. -/
theorem EventQueue.ReadFrom.mem_events_iff {q : EventQueue} {data : Bytes} {scale : Scale}
    (h : q.ReadFrom data scale) (e : TradeEvent) :
    e ∈ q.events ↔ ∃ slot ∈ queueSlots data, slot.isTrade = true ∧ slot.toTrade scale = e := by
  have hring := ringWalk_perm q.header.head.toNat q.header.count.toNat (queueSlots data)
  rw [h.events, tradesOf_eq_filterMap, List.mem_filterMap]
  constructor
  · rintro ⟨slot, hslot, htrade⟩
    refine ⟨slot, hring.mem_iff.mp hslot, ?_⟩
    unfold EventSlot.trade? at htrade
    split at htrade
    · next his => exact ⟨his, Option.some.inj htrade⟩
    · exact nomatch htrade
  · rintro ⟨slot, hslot, his, rfl⟩
    exact ⟨slot, hring.mem_iff.mpr hslot, if_pos his⟩

/-- The native amount of base tokens of a trade: what a bid released, and what an ask paid. -/
def TradeEvent.baseQuantity (e : TradeEvent) : UInt64 := if e.flags.bid then e.released else e.paid

section Divisor

variable (slot : EventSlot) (scale : Scale)

theorem EventSlot.baseQuantity_eq :
    slot.baseQuantity = if slot.eventFlags.bid then slot.released else slot.paid := by
  have hside : slot.side = if slot.eventFlags.bid then .bid else .ask := rfl
  rw [baseQuantity, hside]
  cases slot.eventFlags.bid <;> rfl

theorem toTrade_baseQuantity : (slot.toTrade scale).baseQuantity = slot.baseQuantity :=
  slot.baseQuantity_eq.symm

theorem toTrade_price : (slot.toTrade scale).price =
    ((slot.toTrade scale).priceBeforeFees * scale.baseMultiplier /
      (scale.quoteMultiplier * (slot.toTrade scale).baseQuantity.toFloat)).toFloat32 := by
  rw [toTrade_baseQuantity]
  rfl

end Divisor

theorem isTrade_iff (slot : EventSlot) :
    slot.isTrade = true ↔ slot.eventFlags.fill = true ∧ 0 < slot.paid := by
  rw [EventSlot.isTrade, Bool.and_eq_true, decide_eq_true_iff]

/-- A trade has a base quantity unless it is a bid that released nothing. -/
theorem baseQuantity_pos_iff {slot : EventSlot} (h : slot.isTrade = true) :
    0 < slot.baseQuantity ↔ slot.eventFlags.bid = true → 0 < slot.released := by
  obtain ⟨_, hpaid⟩ := (isTrade_iff slot).mp h
  rw [slot.baseQuantity_eq]
  cases slot.eventFlags.bid with
  | true => exact ⟨fun hreleased _ => hreleased, fun hreleased => hreleased rfl⟩
  | false =>
    -- The base quantity of an ask is the paid amount, which makes it a trade.
    exact iff_of_true hpaid nofun

/-- The price of every trade of a decoded queue is divided by its base quantity. This is above zero,
unless the trade is a bid that released nothing. Such a bid is a trade like any other, so that every
divisor is above zero exactly if each bid among the paid fills of the account released something. -/
theorem trades_base_quantity {data : Bytes} {scale : Scale} {q : EventQueue}
    (h : decodeEventQueue data scale = .ok q) :
    (∀ e ∈ q.events,
      e.price = (e.priceBeforeFees * scale.baseMultiplier /
        (scale.quoteMultiplier * e.baseQuantity.toFloat)).toFloat32 ∧
      (0 < e.baseQuantity ↔ e.flags.bid = true → 0 < e.released)) ∧
    ((∀ e ∈ q.events, 0 < e.baseQuantity) ↔
      ∀ slot ∈ queueSlots data, slot.eventFlags.fill = true → 0 < slot.paid →
        slot.eventFlags.bid = true → 0 < slot.released) := by
  have hread := readFrom_of_decodeEventQueue h
  constructor
  · intro e he
    obtain ⟨slot, _, his, rfl⟩ := (hread.mem_events_iff e).mp he
    refine ⟨toTrade_price slot scale, ?_⟩
    rw [toTrade_baseQuantity]
    exact baseQuantity_pos_iff his
  · constructor
    · intro hall slot hslot hfill hpaid
      have his := (isTrade_iff slot).mpr ⟨hfill, hpaid⟩
      have hpos := hall _ ((hread.mem_events_iff _).mpr ⟨slot, hslot, his, rfl⟩)
      rw [toTrade_baseQuantity] at hpos
      exact (baseQuantity_pos_iff his).mp hpos
    · intro hall e he
      obtain ⟨slot, hslot, his, rfl⟩ := (hread.mem_events_iff e).mp he
      obtain ⟨hfill, hpaid⟩ := (isTrade_iff slot).mp his
      rw [toTrade_baseQuantity, baseQuantity_pos_iff his]
      exact hall slot hslot hfill hpaid

section Sides

/-- A fill of a bid that released and paid some amounts. -/
def bidSlot (released paid : UInt8) : Block 88 :=
  ⟨5 :: List.replicate 7 0 ++ released :: List.replicate 7 0 ++ paid :: List.replicate 71 0, rfl⟩

/-- A queue of a fill of either side. -/
def sidedQueue : QueueAccount :=
  { sampleQueue with
    slots := [bidSlot 40 8, sampleSlot 1 5]
    count_le := by decide }

theorem trades_base_quantity_of_both_sides :
    ∃ q, decodeEventQueue sidedQueue.bytes ⟨6, 6, 10, 1⟩ = .ok q ∧
      (∃ e ∈ q.events, e.flags.bid = true ∧ e.paid = 8 ∧ e.baseQuantity = 40) ∧
      (∃ e ∈ q.events, e.flags.bid = false ∧ e.paid = 5 ∧ e.baseQuantity = 5) ∧
      ∀ e ∈ q.events, 0 < e.baseQuantity := by
  obtain ⟨q, hdecode⟩ := sidedQueue.exists_decode ⟨6, 6, 10, 1⟩
  have hslots : queueSlots sidedQueue.bytes = [bidSlot 40 8, sampleSlot 1 5].map slotOf :=
    sidedQueue.queueSlots_bytes
  have hmem := (readFrom_of_decodeEventQueue hdecode).mem_events_iff
  refine ⟨q, hdecode, ⟨_, (hmem _).mpr ⟨slotOf (bidSlot 40 8), ?_, by decide, rfl⟩, by decide⟩,
    ⟨_, (hmem _).mpr ⟨slotOf (sampleSlot 1 5), ?_, by decide, rfl⟩, by decide⟩, ?_⟩
  · rw [hslots]
    exact List.mem_cons_self
  · rw [hslots]
    exact List.mem_cons_of_mem _ List.mem_cons_self
  · rw [(trades_base_quantity hdecode).2, hslots]
    decide

end Sides

section Unreleased

/-- A fill of a bid that paid two hundred and released nothing. -/
def unreleasedBid : Block 88 := sampleSlot 5 200

/-- A queue of such a bid and an empty slot. -/
def unreleasedQueue : QueueAccount :=
  { sampleQueue with
    slots := [unreleasedBid, sampleSlot 0 0]
    count_le := by decide }

/-- The bid that released nothing is a trade, and its price is divided by zero. -/
theorem exists_trade_without_base_quantity :
    ∃ q e, decodeEventQueue unreleasedQueue.bytes ⟨6, 6, 1, 1⟩ = .ok q ∧ e ∈ q.events ∧
      e.flags.bid = true ∧ e.released = 0 ∧ e.baseQuantity = 0 := by
  obtain ⟨q, hdecode⟩ := unreleasedQueue.exists_decode ⟨6, 6, 1, 1⟩
  have hslot : slotOf unreleasedBid ∈ queueSlots unreleasedQueue.bytes := by
    rw [unreleasedQueue.queueSlots_bytes]
    exact List.mem_cons_self
  have hmem := ((readFrom_of_decodeEventQueue hdecode).mem_events_iff _).mpr
    ⟨slotOf unreleasedBid, hslot, by decide, rfl⟩
  have hnone : (slotOf unreleasedBid).baseQuantity = 0 := by decide
  refine ⟨q, _, hdecode, hmem, by decide, by decide, ?_⟩
  rw [toTrade_baseQuantity, hnone]

end Unreleased

end SerumDex
