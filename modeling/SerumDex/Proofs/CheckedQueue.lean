import SerumDex.Proofs.BuildResult
import SerumDex.Proofs.RingWalk

namespace SerumDex

/-- What stops a reading that is checked at every step. -/
inductive Fault where
  | overflow
  | outOfRange
  | wrongSize
  deriving DecidableEq

theorem queueCapacity_eq_ok_iff {len capacity : Nat} :
    queueCapacity len = .ok capacity ↔ len = queueHeaderSize + capacity * eventSlotSize := by
  have hslot : 0 < eventSlotSize := by decide
  unfold queueCapacity
  constructor
  · intro h
    split at h
    · exact nomatch h
    · split at h
      · exact nomatch h
      · next hshort hrest =>
        have hsplit := Nat.div_add_mod (len - queueHeaderSize) eventSlotSize
        rw [Except.ok.inj h, not_not.mp hrest, Nat.mul_comm] at hsplit
        omega
  · rintro rfl
    have hrest : ¬ capacity * eventSlotSize % eventSlotSize ≠ 0 :=
      not_not.mpr (Nat.mul_mod_left _ _)
    rw [if_neg (by omega), Nat.add_sub_cancel_left, if_neg hrest, Nat.mul_div_cancel _ hslot]

section Slots

variable {data : Bytes} {capacity : Nat}
variable (hlength : data.length = queueHeaderSize + capacity * eventSlotSize)
include hlength

theorem length_slotBytes :
    (data.drop queueHeaderSize).length = capacity * eventSlotSize := by
  rw [List.length_drop, hlength, Nat.add_sub_cancel_left]

theorem slotCount_eq : (data.drop queueHeaderSize).length / eventSlotSize = capacity := by
  rw [length_slotBytes hlength, Nat.mul_div_cancel _ (show 0 < eventSlotSize by decide)]

theorem length_queueSlots : (queueSlots data).length = capacity := by
  unfold queueSlots
  rw [Layout.length_readMany, slotCount_eq hlength]

theorem slot_fits {k : Nat} (hk : k < capacity) :
    queueHeaderSize + k * eventSlotSize + eventSlotSize ≤ data.length := by
  have hroom : (k + 1) * eventSlotSize ≤ capacity * eventSlotSize := Nat.mul_le_mul_right _ hk
  rw [Nat.succ_mul] at hroom
  rw [hlength]
  omega

theorem getElem?_queueSlots {k : Nat} (hk : k < capacity) :
    (queueSlots data)[k]? =
      EventSlot.layout.readAt? (queueHeaderSize + k * eventSlotSize) data := by
  have hcount := slotCount_eq hlength
  have hfits := slot_fits hlength hk
  have hbody : (data.drop queueHeaderSize).take
      ((data.drop queueHeaderSize).length / eventSlotSize * eventSlotSize) =
        data.drop queueHeaderSize := by
    rw [hcount, ← length_slotBytes hlength, List.take_length]
  -- The slots are read behind the header, one after another.
  unfold queueSlots
  rw [Layout.getElem?_readMany EventSlot.layout _ (hcount.symm ▸ hk)]
  apply Layout.readAt?_eq_of_bytes
  · change k * eventSlotSize + eventSlotSize ≤ (List.take (_ * eventSlotSize) _).length
    rw [hbody, List.length_drop]
    omega
  · exact hfits
  · change List.take _ (List.drop _ (List.take (_ * eventSlotSize) _)) = _
    rw [hbody, List.drop_drop]
    rfl

end Slots

namespace Checked

/-- A number in a word of 64 bits. -/
def word (n : Nat) : Except Fault Nat := if n < UInt64.size then .ok n else .error .overflow

/-- A number in a signed word of 128 bits. -/
def signedWord (n : Int) : Except Fault Int :=
  if -(Nat.pow 2 127 : Int) ≤ n ∧ n < (Nat.pow 2 127 : Int) then .ok n else .error .overflow

/-- The bytes from one place up to another. -/
def slice (data : Bytes) (start stop : Nat) : Except Fault Bytes :=
  if start ≤ stop ∧ stop ≤ data.length then .ok ((data.drop start).take (stop - start))
  else .error .outOfRange

/-- The record that takes up a byte string. -/
def cast {α : Type} (A : Layout α) (bs : Bytes) : Except Fault α :=
  if h : bs.length = A.size then .ok (A.read bs h) else .error .wrongSize

structure Walked where
  events : List TradeEvent
  skipped : Nat

namespace Walked

def seen (walked : Walked) : Nat := walked.events.length + walked.skipped

/-- A slot adds its trade, or counts as a slot without one. -/
def after (walked : Walked) (scale : Scale) (slot : EventSlot) : Walked :=
  match slot.trade? scale with
  | some e => { walked with events := walked.events ++ [e] }
  | none => { walked with skipped := walked.skipped + 1 }

theorem seen_after (walked : Walked) (scale : Scale) (slot : EventSlot) :
    (walked.after scale slot).seen = walked.seen + 1 := by
  unfold after seen
  cases slot.trade? scale with
  | some e =>
    change (walked.events ++ [e]).length + walked.skipped = _
    rw [List.length_append, List.length_singleton]
    omega
  | none => rfl

theorem events_after (walked : Walked) (scale : Scale) (slot : EventSlot) :
    (walked.after scale slot).events = walked.events ++ (slot.trade? scale).toList := by
  unfold after
  cases slot.trade? scale with
  | some e => rfl
  | none => exact (List.append_nil _).symm

end Walked

section Reading

variable (data : Bytes) (scale : Scale) (head count : UInt32) (capacity : Nat)

/-- The place of the slot that is visited after `i` others. -/
def place (i : Nat) : Except Fault (Option Nat) := do
  let live ← word (head.toNat + count.toNat)
  let turned ← word (live + capacity)
  let back ← word (1 + i)
  return if turned < back ∨ capacity = 0 then none else some ((turned - back) % capacity)

def slotAt (index : Nat) : Except Fault EventSlot := do
  let before ← word (index * eventSlotSize)
  let offset ← word (queueHeaderSize + before)
  let stop ← word (offset + eventSlotSize)
  let raw ← slice data offset stop
  cast EventSlot.layout raw

def amount (slot : EventSlot) : Except Fault Int :=
  signedWord
    (amountBeforeFees slot.side slot.eventFlags.maker slot.released slot.paid slot.feeOrRebate)

def visit (walked : Walked) (i : Nat) : Except Fault Walked := do
  match ← place head count capacity i with
  | none => return walked
  | some index =>
    let slot ← slotAt data index
    if slot.isTrade then
      let _ ← amount slot
      return { walked with events := walked.events ++ [slot.toTrade scale] }
    else
      let skipped ← word (walked.skipped + 1)
      return { walked with skipped := skipped }

def walk (n : Nat) : Except Fault Walked :=
  (List.range n).foldlM (visit data scale head count capacity) ⟨[], 0⟩

/-- What follows the checks of the head and of the length. -/
def readRing (flags : AccountFlags) : Except Fault (Except DecodeError EventQueue) := do
  -- The flags word is cast once more, in front of the counters.
  let raw ← slice data accountTag.length queueHeaderSize
  let (_, counters) ← cast (Layout.word64.seq QueueCounters.layout) raw
  if capacity < counters.count.toNat then
    return .error (.countExceedsCapacity counters.count.toNat capacity)
  let walked ← walk data scale counters.head counters.count capacity capacity
  return .ok {
    header := {
      flags := flags
      head := counters.head
      count := counters.count
      seqNum := counters.seqNum }
    capacity := capacity
    scale := scale
    events := walked.events
    owners := ownersOf walked.events }

/-- The whole reading. Neither the head nor the capacity can stop it: both are looked up in ways
that answer with an error of the data. -/
def readQueue : Except Fault (Except DecodeError EventQueue) :=
  match decodeHead .eventQueue data with
  | .error e => .ok (.error e)
  | .ok flags =>
    match queueCapacity data.length with
    | .error e => .ok (.error e)
    | .ok capacity => readRing data scale capacity flags

end Reading

section Steps

theorem word_bind {α : Type} {n : Nat} (h : n < UInt64.size) (f : Nat → Except Fault α) :
    (word n >>= f) = f n := by
  rw [word, if_pos h]
  rfl

/-- Nothing overflows on the way to a place as long as its two sums are words. -/
theorem place_eq_slotIndex? {head count : UInt32} {capacity i : Nat}
    (hturned : head.toNat + count.toNat + capacity < UInt64.size) (hback : 1 + i < UInt64.size) :
    place head count capacity i = .ok (slotIndex? head.toNat count.toNat capacity i) := by
  unfold place
  rw [word_bind (by omega), word_bind hturned, word_bind hback]
  rfl

/-- No amount before fees leaves its signed word: it is the sum or the difference of two words. -/
theorem exists_amount (slot : EventSlot) : ∃ n, amount slot = .ok n := by
  have hlimit : Nat.pow 2 127 = 170141183460469231731687303715884105728 := rfl
  have hreleased := slot.released.toNat_lt
  have hpaid := slot.paid.toNat_lt
  have hfee := slot.feeOrRebate.toNat_lt
  -- Neither the role nor the side matters: two words of 64 bits are far from the limits.
  have hbounds (side : Side) (maker : Bool) :
      -(Nat.pow 2 127 : Int) ≤
          amountBeforeFees side maker slot.released slot.paid slot.feeOrRebate ∧
        amountBeforeFees side maker slot.released slot.paid slot.feeOrRebate <
          (Nat.pow 2 127 : Int) := by
    cases side <;> cases maker <;> simp only [amountBeforeFees] <;> omega
  exact ⟨_, if_pos (hbounds _ _)⟩

/-- A record that is found at an offset is what its range of bytes is cast to. -/
theorem cast_slice {α : Type} (A : Layout α) {data : Bytes} {offset stop : Nat} {a : α}
    (hread : A.readAt? offset data = some a) (hstop : stop = offset + A.size) :
    (slice data offset stop >>= cast A) = .ok a := by
  obtain ⟨hreaches, hwrite⟩ := A.write_of_readAt? hread
  have hslice : slice data offset stop = .ok (A.write a) := by
    have hwidth : stop - offset = A.size := by omega
    unfold slice
    rw [if_pos ⟨by omega, by omega⟩, hwidth, hwrite]
  have hcast : cast A (A.write a) = .ok a := by
    unfold cast
    rw [dif_pos (A.length_write a), A.read_write]
  rw [hslice]
  exact hcast

end Steps

/-- The data of a queue with room for `capacity` slots, short enough that lengths and offsets are
words. -/
structure Sized (data : Bytes) (capacity : Nat) : Prop where
  length_eq : data.length = queueHeaderSize + capacity * eventSlotSize
  length_lt : data.length < Nat.pow 2 63

section Ring

variable {data : Bytes} {capacity : Nat} (hsized : Sized data capacity) {scale : Scale}
variable {head count : UInt32}
include hsized

theorem Sized.capacity_lt : capacity < Nat.pow 2 63 := by
  obtain ⟨hlength, hlt⟩ := hsized
  have hslot : capacity * 1 ≤ capacity * eventSlotSize := Nat.mul_le_mul_left _ (by decide)
  omega

theorem place_eq {i : Nat} (hi : i < capacity) :
    place head count capacity i = .ok (some (ringPlace head.toNat count.toNat capacity i)) := by
  have hwords : UInt64.size = 2 * Nat.pow 2 63 := rfl
  have hlimit : Nat.pow 2 63 = 9223372036854775808 := rfl
  have hcapacity := hsized.capacity_lt
  -- The head and the count are words of 32 bits, so their sum leaves room for the capacity.
  have hhead := head.toNat_lt
  have hcount := count.toNat_lt
  rw [place_eq_slotIndex? (by omega) (by omega), slotIndex?_of_lt _ _ _ _ hi]

theorem exists_slotAt {k : Nat} (hk : k < capacity) :
    ∃ slot, (queueSlots data)[k]? = some slot ∧ slotAt data k = .ok slot := by
  have hwords : UInt64.size = 2 * Nat.pow 2 63 := rfl
  have hlt := hsized.length_lt
  have hfits := slot_fits hsized.length_eq hk
  obtain ⟨slot, hread⟩ :=
    EventSlot.layout.exists_readAt? (queueHeaderSize + k * eventSlotSize) hfits
  refine ⟨slot, (getElem?_queueSlots hsized.length_eq hk).trans hread, ?_⟩
  -- Every place up to the end of the slot lies in the data, and the length of the data is a word.
  unfold slotAt
  rw [word_bind (by omega), word_bind (by omega), word_bind (by omega)]
  exact cast_slice EventSlot.layout hread rfl

theorem exists_visit {i : Nat} (hi : i < capacity) {walked : Walked} (hseen : walked.seen ≤ i) :
    ∃ slot, (queueSlots data)[ringPlace head.toNat count.toNat capacity i]? = some slot ∧
      visit data scale head count capacity walked i = .ok (walked.after scale slot) := by
  have hwords : UInt64.size = 2 * Nat.pow 2 63 := rfl
  have hcapacity := hsized.capacity_lt
  obtain ⟨slot, hslot, hread⟩ := exists_slotAt hsized
    (ringPlace_lt head.toNat count.toNat capacity i hi)
  refine ⟨slot, hslot, ?_⟩
  unfold visit
  rw [place_eq hsized hi]
  change (slotAt data _ >>= fun slot => _) = _
  rw [hread]
  change (if slot.isTrade = true then _ else _) = _
  unfold Walked.after EventSlot.trade?
  split
  · obtain ⟨n, hamount⟩ := exists_amount slot
    rw [hamount]
    rfl
  · -- The skipped slots are among the `i` slots seen before.
    have hskipped : walked.skipped ≤ i := by
      unfold Walked.seen at hseen
      omega
    rw [word_bind (by omega)]
    rfl

/-- No round of the walk fails, and after `n` rounds the trades of the first `n` slots of the walk
have been found. -/
theorem exists_walk {n : Nat} (hn : n ≤ capacity) :
    ∃ walked, walk data scale head count capacity n = .ok walked ∧ walked.seen = n ∧
      walked.events = (List.range n).filterMap fun i =>
        (queueSlots data)[ringPlace head.toNat count.toNat capacity i]?.bind fun slot =>
          slot.trade? scale := by
  induction n with
  | zero => exact ⟨⟨[], 0⟩, rfl, rfl, rfl⟩
  | succ n ih =>
    obtain ⟨walked, hwalk, hseen, hevents⟩ := ih (by omega)
    obtain ⟨slot, hslot, hvisit⟩ := exists_visit hsized hn (Nat.le_of_eq hseen)
    refine ⟨walked.after scale slot, ?_, ?_, ?_⟩
    · unfold walk at hwalk ⊢
      rw [List.range_succ, List.foldlM_append, hwalk]
      change (visit data scale head count capacity walked n >>= pure) = _
      rw [bind_pure]
      exact hvisit
    · rw [walked.seen_after, hseen]
    · -- The slot that is visited last adds its trade behind the others.
      have hlast : [n].filterMap (fun i =>
          (queueSlots data)[ringPlace head.toNat count.toNat capacity i]?.bind fun slot =>
            slot.trade? scale) = (slot.trade? scale).toList := by
        rw [List.filterMap_cons, hslot, Option.bind_some]
        cases slot.trade? scale <;> rfl
      rw [walked.events_after, hevents, List.range_succ, List.filterMap_append, hlast]

theorem exists_walk_tradesOf : ∃ walked, walk data scale head count capacity capacity = .ok walked ∧
    walked.events = tradesOf (queueSlots data) head.toNat count.toNat scale := by
  obtain ⟨walked, hwalk, _, hevents⟩ := exists_walk hsized (Nat.le_refl capacity)
  refine ⟨walked, hwalk, ?_⟩
  rw [hevents, tradesOf, List.size_toArray, length_queueSlots hsized.length_eq, visitOrder_eq_map,
    List.filterMap_map]
  simp only [List.getElem?_toArray]
  rfl

end Ring

section Whole

variable {data : Bytes} {scale : Scale}

theorem readRing_eq {capacity : Nat} {flags : AccountFlags} (hsized : Sized data capacity)
    (hhead : decodeHead .eventQueue data = .ok flags) :
    readRing data scale capacity flags = .ok (decodeEventQueue data scale) := by
  have hcapacity : queueCapacity data.length = .ok capacity :=
    queueCapacity_eq_ok_iff.mpr hsized.length_eq
  obtain ⟨⟨flagsWord, counters⟩, hraw⟩ :=
    (Layout.word64.seq QueueCounters.layout).exists_readAt? accountTag.length
      (show queueHeaderSize ≤ data.length by rw [hsized.length_eq]; omega)
  -- The flags word is read a second time, in front of the counters.
  have hcounters : readCounters data = .ok counters := by
    have hread := Layout.readAt?_seq_snd _ _ hraw
    unfold readCounters
    rw [show accountHeadSize = accountTag.length + Layout.word64.size from rfl, hread]
  obtain ⟨raw, hslice, hcast⟩ :=
    ok_of_bind (cast_slice _ hraw (show queueHeaderSize = _ from rfl))
  obtain ⟨walked, hwalk, hevents⟩ : ∃ walked,
      walk data scale counters.head counters.count capacity capacity = .ok walked ∧ _ :=
    exists_walk_tradesOf hsized
  unfold readRing decodeEventQueue
  rw [hhead, hcapacity, hcounters, hslice]
  change (cast _ raw >>= fun counters => _) = _
  rw [hcast]
  simp only [bind, Except.bind]
  split
  · rfl
  · rw [hwalk, ← hevents]
    rfl

theorem readQueue_eq (hlength : data.length < Nat.pow 2 63) :
    readQueue data scale = .ok (decodeEventQueue data scale) := by
  unfold readQueue
  -- An error of the head or of the length ends both readings in the same place.
  cases hhead : decodeHead .eventQueue data with
  | error e =>
    unfold decodeEventQueue
    rw [hhead]
    rfl
  | ok flags =>
    cases hcapacity : queueCapacity data.length with
    | error e =>
      unfold decodeEventQueue
      rw [hhead, hcapacity]
      rfl
    | ok capacity => exact readRing_eq ⟨queueCapacity_eq_ok_iff.mp hcapacity, hlength⟩ hhead

end Whole

end Checked

end SerumDex
