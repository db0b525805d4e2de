import SerumDex.Account.Flags
import SerumDex.Trade

namespace SerumDex

/-- The counters behind the account head, each followed by four bytes of padding. -/
structure QueueCounters where
  head : UInt32
  headPadding : Block 4
  count : UInt32
  countPadding : Block 4
  seqNum : UInt32
  seqNumPadding : Block 4
  deriving DecidableEq

def QueueCounters.layout : Layout QueueCounters :=
  (Layout.word32.seq <| (Layout.block 4).seq <| Layout.word32.seq <| (Layout.block 4).seq <|
    Layout.word32.seq <| Layout.block 4).via
    (fun (head, headPadding, count, countPadding, seqNum, seqNumPadding) =>
      ⟨head, headPadding, count, countPadding, seqNum, seqNumPadding⟩)
    (fun c => (c.head, c.headPadding, c.count, c.countPadding, c.seqNum, c.seqNumPadding))
    (fun _ => rfl) (fun _ => rfl)

structure QueueHeader where
  flags : AccountFlags
  head : UInt32
  count : UInt32
  seqNum : UInt32
  deriving DecidableEq

structure EventQueue where
  header : QueueHeader
  capacity : Nat
  scale : Scale
  /-- The trades, newest slot first. -/
  events : List TradeEvent
  /-- The distinct accounts that traded, in the order of their base58 texts. -/
  owners : List Address

/-- The size of the head and the counters: the slots follow. -/
def queueHeaderSize : Nat := accountHeadSize + QueueCounters.layout.size

def eventSlotSize : Nat := EventSlot.layout.size

/-- The number of slots of a queue account of a given length. -/
def queueCapacity (len : Nat) : Except DecodeError Nat :=
  if len < queueHeaderSize then .error (.truncated "en-tête Event Queue" queueHeaderSize len)
  else if (len - queueHeaderSize) % eventSlotSize ≠ 0 then
    .error (.invalidQueueLength len queueHeaderSize eventSlotSize)
  else .ok ((len - queueHeaderSize) / eventSlotSize)

/-- The place in the ring of the slot visited after `i` others. The walk starts at the newest entry,
the last of the `count` entries from `head` on, and goes backwards over the whole ring. -/
def slotIndex? (head count capacity i : Nat) : Option Nat :=
  if head + count + capacity < 1 + i ∨ capacity = 0 then none
  else some ((head + count + capacity - (1 + i)) % capacity)

/-- The walk goes from the newest entry backwards, over the whole ring. -/
def visitOrder (head count capacity : Nat) : List Nat :=
  (List.range capacity).filterMap (slotIndex? head count capacity)

/-- Puts an address in its place among addresses sorted by their texts, unless its text is there. -/
def insertByText (text : String) (a : Address) :
    List (String × Address) → List (String × Address)
  | [] => [(text, a)]
  | (t, b) :: rest =>
    if text < t then (text, a) :: (t, b) :: rest
    else if text = t then (t, b) :: rest
    else (t, b) :: insertByText text a rest

/-- The accounts that own some of the trades, each once, sorted by their base58 texts. -/
def ownersOf (events : List TradeEvent) : List Address :=
  (events.foldr (fun e sorted => insertByText e.openOrders.text e.openOrders sorted) []).map
    Prod.snd

def queueSlots (data : Bytes) : List EventSlot :=
  let body := data.drop queueHeaderSize
  let n := body.length / eventSlotSize
  EventSlot.layout.readMany n (body.take (n * EventSlot.layout.size)) (by
    have := Nat.div_mul_le_self body.length eventSlotSize
    rw [List.length_take]
    exact Nat.min_eq_left this)

/-- The trades of a ring of slots, in the order of the walk. -/
def tradesOf (slots : List EventSlot) (head count : Nat) (scale : Scale) : List TradeEvent :=
  -- The walk jumps, so the slots are put where each is found at once.
  let ring := slots.toArray
  (visitOrder head count ring.size).filterMap fun i => do
    let slot ← ring[i]?
    slot.trade? scale

def readCounters (data : Bytes) : Except DecodeError QueueCounters :=
  match QueueCounters.layout.readAt? accountHeadSize data with
  | some counters => .ok counters
  | none => .error (.truncated "en-tête Event Queue" queueHeaderSize data.length)

def decodeEventQueue (data : Bytes) (scale : Scale) : Except DecodeError EventQueue := do
  let flags ← decodeHead .eventQueue data
  let capacity ← queueCapacity data.length
  let counters ← readCounters data
  if capacity < counters.count.toNat then
    throw (.countExceedsCapacity counters.count.toNat capacity)
  let events := tradesOf (queueSlots data) counters.head.toNat counters.count.toNat scale
  return {
    header := {
      flags := flags
      head := counters.head
      count := counters.count
      seqNum := counters.seqNum }
    capacity := capacity
    scale := scale
    events := events
    owners := ownersOf events }

def EventQueue.eventsForOwner (q : EventQueue) (owner : Address) : List TradeEvent :=
  q.events.filter fun e => e.openOrders = owner

end SerumDex
