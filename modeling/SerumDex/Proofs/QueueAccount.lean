import Mathlib.Data.List.Forall2
import SerumDex.Proofs.FlagsWord
import SerumDex.Proofs.RingWalk

namespace SerumDex

/-- The number that the bytes at an offset spell, least significant byte first. -/
def leAt (bs : Bytes) (offset width : Nat) : Nat := leNat ((bs.drop offset).take width)

theorem leAt_take_drop (bs : Bytes) {size inner width : Nat} (offset : Nat)
    (h : inner + width ≤ size) :
    leAt ((bs.drop offset).take size) inner width = leAt bs (offset + inner) width := by
  unfold leAt
  rw [List.drop_take, List.drop_drop, List.take_take, Nat.min_eq_left (by omega)]

theorem queueSlots_congr {data data' : Bytes}
    (h : data.drop queueHeaderSize = data'.drop queueHeaderSize) :
    queueSlots data = queueSlots data' := by
  unfold queueSlots
  simp only [h]

/-- The content of an event queue account. The seven low bits of the flags word are `initialized`
and `event_queue`, and no more entries are live than there are slots. -/
structure QueueAccount where
  flagsWord : UInt64
  head : UInt32
  headPadding : Block 4
  count : UInt32
  countPadding : Block 4
  seqNum : UInt32
  seqNumPadding : Block 4
  slots : List (Block 88)
  flags_low : flagsWord.toNat % 128 = 17
  count_le : count.toNat ≤ slots.length

namespace QueueAccount

def counters (a : QueueAccount) : Bytes :=
  leBytes 4 a.head.toNat ++ a.headPadding.bytes ++ leBytes 4 a.count.toNat ++
    a.countPadding.bytes ++ leBytes 4 a.seqNum.toNat ++ a.seqNumPadding.bytes

def bytes (a : QueueAccount) : Bytes :=
  writtenHead a.flagsWord ++ a.counters ++ a.slots.flatMap Block.bytes

/-- The slots in the order of the walk: the one visited after `i` others lies at place
`head + count + n - 1 - i` of the ring of `n` slots. -/
def walk (a : QueueAccount) : List (Block 88) := ringWalk a.head.toNat a.count.toNat a.slots

end QueueAccount

def paidFill (raw : Block 88) : Bool := (leAt raw.bytes 0 1).testBit 0 && 0 < leAt raw.bytes 16 8

/-- A trade that carries the fields of a slot, each found at its own offset. -/
structure Records (raw : Block 88) (e : TradeEvent) : Prop where
  fill : e.flags.fill = (leAt raw.bytes 0 1).testBit 0
  out : e.flags.out = (leAt raw.bytes 0 1).testBit 1
  bid : e.flags.bid = (leAt raw.bytes 0 1).testBit 2
  maker : e.flags.maker = (leAt raw.bytes 0 1).testBit 3
  openOrdersSlot : e.openOrdersSlot.toNat = leAt raw.bytes 1 1
  feeTier : e.feeTier.toNat = leAt raw.bytes 2 1
  released : e.released.toNat = leAt raw.bytes 8 8
  paid : e.paid.toNat = leAt raw.bytes 16 8
  feeOrRebate : e.feeOrRebate.toNat = leAt raw.bytes 24 8
  orderId : e.orderId.toNat = leAt raw.bytes 32 16
  openOrders : e.openOrders.bytes = (raw.bytes.drop 48).take 32
  clientOrderId : e.clientOrderId.toNat = leAt raw.bytes 80 8

section Words

variable (bs : Bytes)

theorem toNat_read_word8 (h : bs.length = Layout.word8.size) :
    (Layout.word8.read bs h).toNat = leNat bs := by
  have hlt := leNat_lt bs
  rw [h] at hlt
  exact UInt8.toNat_ofNat_of_lt hlt

theorem toNat_read_word64 (h : bs.length = Layout.word64.size) :
    (Layout.word64.read bs h).toNat = leNat bs := by
  have hlt := leNat_lt bs
  rw [h] at hlt
  exact UInt64.toNat_ofNat_of_lt hlt

theorem toNat_read_word128 (h : bs.length = Layout.word128.size) :
    (Layout.word128.read bs h).toNat = leNat bs := by
  have hlt := leNat_lt bs
  rw [h] at hlt
  exact (BitVec.toNat_ofNat _ _).trans (Nat.mod_eq_of_lt hlt)

end Words

def slotOf (raw : Block 88) : EventSlot := EventSlot.layout.read raw.bytes raw.length_bytes

section Fields

variable (raw : Block 88)

theorem toNat_slotOf_flags : (slotOf raw).flags.toNat = leAt raw.bytes 0 1 := by
  simp only [slotOf, EventSlot.layout, Layout.via, Layout.seq, toNat_read_word8]
  rfl

theorem toNat_slotOf_paid : (slotOf raw).paid.toNat = leAt raw.bytes 16 8 := by
  simp only [slotOf, EventSlot.layout, Layout.via, Layout.seq, toNat_read_word64, List.drop_drop]
  rfl

theorem toNat_slotOf_clientOrderId : (slotOf raw).clientOrderId.toNat = leAt raw.bytes 80 8 := by
  have hlength : (raw.bytes.drop 80).length = 8 := by rw [List.length_drop, raw.length_bytes]
  have hrest : (raw.bytes.drop 80).take 8 = raw.bytes.drop 80 :=
    List.take_of_length_le (Nat.le_of_eq hlength)
  rw [leAt, hrest]
  simp only [slotOf, EventSlot.layout, Layout.via, Layout.seq, toNat_read_word64, List.drop_drop]
  rfl

theorem records_toTrade (scale : Scale) : Records raw ((slotOf raw).toTrade scale) := by
  have hflags (i : Nat) : (slotOf raw).flags.toNat.testBit i = (leAt raw.bytes 0 1).testBit i := by
    rw [toNat_slotOf_flags]
  refine ⟨hflags 0, hflags 1, hflags 2, hflags 3, ?_, ?_, ?_, toNat_slotOf_paid raw, ?_, ?_, ?_,
    toNat_slotOf_clientOrderId raw⟩
  all_goals
    simp only [EventSlot.toTrade, slotOf, EventSlot.layout, Address.layout, Layout.via, Layout.seq,
      Layout.block, toNat_read_word8, toNat_read_word64, toNat_read_word128, List.drop_drop]
    rfl

theorem isTrade_slotOf : (slotOf raw).isTrade = paidFill raw := by
  have hpaid : (0 < (slotOf raw).paid) ↔ 0 < leAt raw.bytes 16 8 := by
    rw [← toNat_slotOf_paid]
    exact UInt64.lt_iff_toNat_lt
  unfold EventSlot.isTrade paidFill
  rw [decide_eq_decide.mpr hpaid, ← toNat_slotOf_flags]
  rfl

end Fields

/-- The slots with a trade are the paid fills, and each trade carries the fields of its slot. -/
theorem forall₂_records (scale : Scale) (raws : List (Block 88)) :
    List.Forall₂ Records (raws.filter paidFill)
      (raws.filterMap fun raw => (slotOf raw).trade? scale) := by
  induction raws with
  | nil => exact List.Forall₂.nil
  | cons raw raws ih =>
    have htrade := isTrade_slotOf raw
    by_cases h : paidFill raw = true
    · have hsome : (slotOf raw).trade? scale = some ((slotOf raw).toTrade scale) := by
        rw [EventSlot.trade?, if_pos (htrade.trans h)]
      rw [List.filter_cons_of_pos h, List.filterMap_cons]
      simp only [hsome]
      exact List.Forall₂.cons (records_toTrade raw scale) ih
    · have hnone : (slotOf raw).trade? scale = none := by
        rw [EventSlot.trade?, if_neg (by rwa [htrade])]
      rw [List.filter_cons_of_neg h, List.filterMap_cons]
      simp only [hnone]
      exact ih

namespace QueueAccount

variable (a : QueueAccount)

theorem counters_eq_write : a.counters = QueueCounters.layout.write
    ⟨a.head, a.headPadding, a.count, a.countPadding, a.seqNum, a.seqNumPadding⟩ := by
  simp only [counters, List.append_assoc]
  rfl

theorem writeMany_slots :
    EventSlot.layout.writeMany (a.slots.map slotOf) = a.slots.flatMap Block.bytes := by
  have hwrite (raw : Block 88) : EventSlot.layout.write (slotOf raw) = raw.bytes :=
    EventSlot.layout.write_read _ _
  simp only [Layout.writeMany, List.flatMap_map, hwrite]

theorem length_slots :
    (a.slots.flatMap Block.bytes).length = a.slots.length * eventSlotSize := by
  rw [← writeMany_slots, Layout.length_writeMany, List.length_map]
  rfl

theorem length_front : (writtenHead a.flagsWord ++ a.counters).length = queueHeaderSize := by
  rw [List.length_append, length_writtenHead, counters_eq_write, Layout.length_write]
  rfl

theorem length_bytes : a.bytes.length = queueHeaderSize + a.slots.length * eventSlotSize := by
  rw [bytes, List.length_append, length_front, length_slots]

theorem decodeHead_bytes :
    decodeHead .eventQueue a.bytes = .ok (AccountFlags.ofBits a.flagsWord) := by
  rw [bytes, List.append_assoc]
  exact decodeHead_written .eventQueue a.flagsWord _ a.flags_low

theorem queueCapacity_bytes : queueCapacity a.bytes.length = .ok a.slots.length := by
  have hslot : 0 < eventSlotSize := by decide
  rw [length_bytes, queueCapacity, if_neg (by omega), Nat.add_sub_cancel_left,
    if_neg (by rw [Nat.mul_mod_left]; exact fun h => h rfl), Nat.mul_div_cancel _ hslot]

theorem readCounters_bytes : readCounters a.bytes =
    .ok ⟨a.head, a.headPadding, a.count, a.countPadding, a.seqNum, a.seqNumPadding⟩ := by
  have hread := QueueCounters.layout.readAt?_write (writtenHead a.flagsWord)
    (a.slots.flatMap Block.bytes)
    ⟨a.head, a.headPadding, a.count, a.countPadding, a.seqNum, a.seqNumPadding⟩
  rw [length_writtenHead, ← counters_eq_write] at hread
  rw [readCounters, bytes, hread]

theorem queueSlots_bytes : queueSlots a.bytes = a.slots.map slotOf := by
  have hslot : 0 < eventSlotSize := by decide
  -- The capacity is recovered from the length of what follows the header.
  have hbody : a.bytes.drop queueHeaderSize = a.slots.flatMap Block.bytes := by
    rw [bytes, List.drop_left' a.length_front]
  have hcount : (a.bytes.drop queueHeaderSize).length / eventSlotSize = a.slots.length := by
    rw [hbody, length_slots, Nat.mul_div_cancel _ hslot]
  apply Layout.readMany_writeMany
  · rw [hcount, hbody, writeMany_slots]
    exact List.take_of_length_le (Nat.le_of_eq a.length_slots)
  · rw [List.length_map, hcount]

theorem tradesOf_bytes (scale : Scale) :
    tradesOf (queueSlots a.bytes) a.head.toNat a.count.toNat scale =
      a.walk.filterMap fun raw => (slotOf raw).trade? scale := by
  rw [queueSlots_bytes, tradesOf_eq_filterMap, ringWalk_map, List.filterMap_map]
  rfl

end QueueAccount

/-- Decoding a written event queue gives back its counters, its capacity and its scale. The trades
are those slots of the walk whose fill bit is set and whose paid amount is above zero, one trade for
each and in the same order, and the walk meets every slot once. -/
theorem decodeEventQueue_bytes (a : QueueAccount) (scale : Scale) :
    ∃ q, decodeEventQueue a.bytes scale = .ok q ∧
      q.header = ⟨AccountFlags.ofBits a.flagsWord, a.head, a.count, a.seqNum⟩ ∧
      q.capacity = a.slots.length ∧ q.scale = scale ∧
      List.Forall₂ Records (a.walk.filter paidFill) q.events ∧
      a.walk.Perm a.slots := by
  let events := tradesOf (queueSlots a.bytes) a.head.toNat a.count.toNat scale
  have hcount : ¬ a.slots.length < a.count.toNat := Nat.not_lt.mpr a.count_le
  have hdecode : decodeEventQueue a.bytes scale = .ok
      ⟨⟨AccountFlags.ofBits a.flagsWord, a.head, a.count, a.seqNum⟩, a.slots.length, scale, events,
        ownersOf events⟩ := by
    unfold decodeEventQueue
    rw [a.decodeHead_bytes, a.queueCapacity_bytes, a.readCounters_bytes]
    simp only [bind, Except.bind, if_neg hcount]
    rfl
  refine ⟨_, hdecode, rfl, rfl, rfl, ?_, ringWalk_perm _ _ _⟩
  change List.Forall₂ Records _ events
  rw [show events = _ from a.tradesOf_bytes scale]
  exact forall₂_records scale a.walk

def sampleSlot (flags paid : UInt8) : Block 88 :=
  ⟨flags :: List.replicate 15 0 ++ paid :: List.replicate 71 0, rfl⟩

/-- Three slots, one of them without a paid amount, and a head that lies beyond them. -/
def sampleQueue : QueueAccount where
  flagsWord := 17
  head := 7
  headPadding := ⟨[0, 0, 0, 0], rfl⟩
  count := 2
  countPadding := ⟨[1, 2, 3, 4], rfl⟩
  seqNum := 40
  seqNumPadding := ⟨[0, 0, 0, 0], rfl⟩
  slots := [sampleSlot 1 5, sampleSlot 1 0, sampleSlot 9 8]
  flags_low := rfl
  count_le := by decide

theorem decodeEventQueue_bytes_of_sample :
    ∃ q, decodeEventQueue sampleQueue.bytes ⟨6, 6, 10, 1⟩ = .ok q ∧ q.capacity = 3 ∧
      List.Forall₂ Records [sampleSlot 9 8, sampleSlot 1 5] q.events := by
  have hfills : sampleQueue.walk.filter paidFill = [sampleSlot 9 8, sampleSlot 1 5] := by
    decide +kernel
  obtain ⟨q, hdecode, _, hcapacity, _, hevents, _⟩ :=
    decodeEventQueue_bytes sampleQueue ⟨6, 6, 10, 1⟩
  rw [hfills] at hevents
  exact ⟨q, hdecode, hcapacity, hevents⟩

end SerumDex
