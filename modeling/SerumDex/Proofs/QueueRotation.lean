import SerumDex.Proofs.CheckedQueue
import SerumDex.Proofs.QueueOwners

namespace SerumDex

/-- A rotation cuts a list in two parts, and what is kept of each part does not depend on the
other. -/
theorem isRotated_filterMap {α β : Type} {xs ys : List α} (h : xs.IsRotated ys)
    (f : α → Option β) : (xs.filterMap f).IsRotated (ys.filterMap f) := by
  obtain ⟨n, rfl⟩ := h
  let front := xs.take (n % xs.length)
  let back := xs.drop (n % xs.length)
  have hxs : xs = front ++ back := (List.take_append_drop _ _).symm
  have hturned : xs.rotate n = back ++ front := List.rotate_eq_drop_append_take_mod
  have hparts : (front.filterMap f ++ back.filterMap f).IsRotated
      (back.filterMap f ++ front.filterMap f) := List.isRotated_append
  rwa [← List.filterMap_append, ← List.filterMap_append, ← hturned, ← hxs] at hparts

namespace EventSlot

/-- The trade that a slot records on a market whose tokens have the given decimals. -/
def tradeAt (s : EventSlot) (baseDecimals quoteDecimals : UInt8) : TradeEvent where
  flags := s.eventFlags
  openOrdersSlot := s.openOrdersSlot
  feeTier := s.feeTier
  released := s.released
  paid := s.paid
  feeOrRebate := s.feeOrRebate
  orderId := s.orderId
  openOrders := s.openOrders
  clientOrderId := s.clientOrderId
  price := (s.priceBeforeFees * powTen baseDecimals.toNat /
    (powTen quoteDecimals.toNat * s.baseQuantity.toFloat)).toFloat32
  quantity := (s.baseQuantity.toFloat / powTen baseDecimals.toNat).toFloat32

theorem toTrade_eq_tradeAt (s : EventSlot) (scale : Scale) :
    s.toTrade scale = s.tradeAt scale.baseDecimals scale.quoteDecimals := rfl

end EventSlot

section Trades

variable (slots : List EventSlot)

theorem filterMap_trade? (scale : Scale) : slots.filterMap (fun s => s.trade? scale) =
    (slots.filter EventSlot.isTrade).map fun s =>
      s.tradeAt scale.baseDecimals scale.quoteDecimals := by
  induction slots with
  | nil => rfl
  | cons s slots ih =>
    rw [List.filterMap_cons, ih]
    unfold EventSlot.trade?
    by_cases h : s.isTrade = true
    · rw [if_pos h, List.filter_cons_of_pos h, List.map_cons, s.toTrade_eq_tradeAt]
    · rw [if_neg h, List.filter_cons_of_neg h]

/-- The trades of some slots, the last slot first. -/
def backwardTrades (baseDecimals quoteDecimals : UInt8) : List TradeEvent :=
  (slots.reverse.filter EventSlot.isTrade).map fun s => s.tradeAt baseDecimals quoteDecimals

theorem tradesOf_isRotated (head count : Nat) (scale : Scale) :
    (tradesOf slots head count scale).IsRotated
      (backwardTrades slots scale.baseDecimals scale.quoteDecimals) := by
  have hwalk := isRotated_filterMap (ringWalk_isRotated head count slots) fun s => s.trade? scale
  rwa [← tradesOf_eq_filterMap, filterMap_trade?] at hwalk

theorem length_backwardTrades (baseDecimals quoteDecimals : UInt8) :
    (backwardTrades slots baseDecimals quoteDecimals).length = slots.countP EventSlot.isTrade := by
  rw [backwardTrades, List.length_map, ← List.countP_eq_length_filter, List.countP_reverse]

end Trades

section Fills

/-- The slot at a place of the ring is a fill with a paid amount. The byte of its flags comes first,
and the paid amount behind eight bytes and the released amount. -/
def paidFillAt (data : Bytes) (k : Nat) : Bool :=
  (leAt data (queueHeaderSize + k * eventSlotSize) 1).testBit 0 &&
    0 < leAt data (queueHeaderSize + k * eventSlotSize + 16) 8

variable {data : Bytes} {capacity : Nat}
variable (hlength : data.length = queueHeaderSize + capacity * eventSlotSize)
include hlength

theorem isTrade_queueSlots {k : Nat} (hk : k < (queueSlots data).length) :
    (queueSlots data)[k].isTrade = paidFillAt data k := by
  have hcapacity : k < capacity := by rwa [length_queueSlots hlength] at hk
  have hread := getElem?_queueSlots hlength hcapacity
  rw [List.getElem?_eq_getElem hk] at hread
  -- The slot is the one that is spelled by the 88 bytes at its place.
  let offset := queueHeaderSize + k * eventSlotSize
  obtain ⟨_, hwrite⟩ := EventSlot.layout.write_of_readAt? hread.symm
  let raw : Block 88 := ⟨(data.drop offset).take 88, hwrite ▸ EventSlot.layout.length_write _⟩
  have hslot : slotOf raw = (queueSlots data)[k] :=
    EventSlot.layout.read_eq_of_write _ hwrite.symm raw.length_bytes
  have hflags : leAt raw.bytes 0 1 = leAt data offset 1 := leAt_take_drop data offset (by decide)
  have hpaid : leAt raw.bytes 16 8 = leAt data (offset + 16) 8 :=
    leAt_take_drop data offset (by decide)
  rw [← hslot, isTrade_slotOf, paidFill, hflags, hpaid]
  rfl

theorem countP_queueSlots : (queueSlots data).countP EventSlot.isTrade =
    (List.range capacity).countP (paidFillAt data) := by
  have hmap : (queueSlots data).map EventSlot.isTrade =
      (List.range capacity).map (paidFillAt data) := by
    apply List.ext_getElem
    · rw [List.length_map, List.length_map, length_queueSlots hlength, List.length_range]
    · intro k hk _
      have hk : k < (queueSlots data).length := by simpa only [List.length_map] using hk
      rw [List.getElem_map, List.getElem_map, List.getElem_range, isTrade_queueSlots hlength hk]
  have hcount := congrArg (List.countP id) hmap
  rwa [List.countP_map, List.countP_map] at hcount

end Fills

/-- Two queue accounts with the same slots have the same history up to rotation, whatever their
counters are and whatever the lot sizes of their markets, as long as the decimals agree. There is
one trade for each slot with a paid fill, each made of its own slot and the decimals alone, and the
owners of the trades are the same. -/
theorem events_isRotated {data data' : Bytes} {scale scale' : Scale} {q q' : EventQueue}
    (hq : decodeEventQueue data scale = .ok q) (hq' : decodeEventQueue data' scale' = .ok q')
    (hslots : data.drop queueHeaderSize = data'.drop queueHeaderSize)
    (hbase : scale.baseDecimals = scale'.baseDecimals)
    (hquote : scale.quoteDecimals = scale'.quoteDecimals) :
    q.events.IsRotated q'.events ∧
      q.events.length = (List.range q.capacity).countP (paidFillAt data) ∧
      q.events.length = q'.events.length ∧
      q.owners = q'.owners ∧
      q.events.IsRotated
        (backwardTrades (queueSlots data) scale.baseDecimals scale.quoteDecimals) := by
  have hread := readFrom_of_decodeEventQueue hq
  have hread' := readFrom_of_decodeEventQueue hq'
  have hlength := queueCapacity_eq_ok_iff.mp hread.capacity
  -- Both histories are rotations of the trades of the slots in reverse.
  have hback : q.events.IsRotated
      (backwardTrades (queueSlots data) scale.baseDecimals scale.quoteDecimals) := by
    rw [hread.events]
    exact tradesOf_isRotated _ _ _ _
  have hback' : q'.events.IsRotated
      (backwardTrades (queueSlots data) scale.baseDecimals scale.quoteDecimals) := by
    rw [hread'.events, queueSlots_congr hslots, hbase, hquote]
    exact tradesOf_isRotated _ _ _ _
  have hrotated : q.events.IsRotated q'.events := hback.trans hback'.symm
  refine ⟨hrotated, ?_, hrotated.perm.length_eq, ?_, hback⟩
  · calc
      q.events.length
        = (backwardTrades (queueSlots data) scale.baseDecimals scale.quoteDecimals).length :=
          hback.perm.length_eq
      _ = (queueSlots data).countP EventSlot.isTrade := length_backwardTrades _ _ _
      _ = (List.range q.capacity).countP (paidFillAt data) := countP_queueSlots hlength
  · rw [hread.owners, hread'.owners]
    exact ownersOf_eq_of_perm hrotated.perm

/-- The sample with its ring started at another slot, after more events. -/
def turnedQueue : QueueAccount :=
  { sampleQueue with
    head := 2
    count := 3
    seqNum := 90
    count_le := by decide }

theorem events_isRotated_of_turnedQueue :
    ∃ q q', decodeEventQueue sampleQueue.bytes ⟨6, 8, 10, 5⟩ = .ok q ∧
      decodeEventQueue turnedQueue.bytes ⟨6, 8, 300, 7⟩ = .ok q' ∧
      q.events.IsRotated q'.events ∧ q.events.length = 2 := by
  obtain ⟨q, hq⟩ := sampleQueue.exists_decode ⟨6, 8, 10, 5⟩
  obtain ⟨q', hq'⟩ := turnedQueue.exists_decode ⟨6, 8, 300, 7⟩
  have hslots :
      sampleQueue.bytes.drop queueHeaderSize = turnedQueue.bytes.drop queueHeaderSize := by
    decide +kernel
  obtain ⟨hrotated, hcount, _⟩ := events_isRotated hq hq' hslots rfl rfl
  have hcapacity : q.capacity = 3 := by
    have h := (readFrom_of_decodeEventQueue hq).capacity
    rw [sampleQueue.queueCapacity_bytes] at h
    exact (Except.ok.inj h).symm
  rw [hcapacity] at hcount
  refine ⟨q, q', hq, hq', hrotated, hcount.trans ?_⟩
  decide +kernel

end SerumDex
