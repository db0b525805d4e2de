import SerumDex.Account.Address
import SerumDex.Scale

namespace SerumDex

inductive Side where
  | bid
  | ask
  deriving DecidableEq

def Side.name : Side → String
  | bid => "Bid"
  | ask => "Ask"

structure EventFlags where
  fill : Bool
  out : Bool
  bid : Bool
  maker : Bool
  deriving DecidableEq

def EventFlags.ofByte (byte : UInt8) : EventFlags where
  fill := byte.toNat.testBit 0
  out := byte.toNat.testBit 1
  bid := byte.toNat.testBit 2
  maker := byte.toNat.testBit 3

/-- A slot as it lies in the account. -/
structure EventSlot where
  flags : UInt8
  openOrdersSlot : UInt8
  feeTier : UInt8
  padding : Block 5
  released : UInt64
  paid : UInt64
  feeOrRebate : UInt64
  orderId : BitVec 128
  openOrders : Address
  clientOrderId : UInt64
  deriving DecidableEq

/-- The 88 bytes of a slot. -/
def EventSlot.layout : Layout EventSlot :=
  (Layout.word8.seq <| Layout.word8.seq <| Layout.word8.seq <| (Layout.block 5).seq <|
    Layout.word64.seq <| Layout.word64.seq <| Layout.word64.seq <| Layout.word128.seq <|
    Address.layout.seq Layout.word64).via
    (fun (flags, openOrdersSlot, feeTier, padding, released, paid, feeOrRebate, orderId,
        openOrders, clientOrderId) =>
      ⟨flags, openOrdersSlot, feeTier, padding, released, paid, feeOrRebate, orderId, openOrders,
        clientOrderId⟩)
    (fun s => (s.flags, s.openOrdersSlot, s.feeTier, s.padding, s.released, s.paid, s.feeOrRebate,
      s.orderId, s.openOrders, s.clientOrderId))
    (fun _ => rfl) (fun _ => rfl)

/-- A fill, with its price and quantity in displayed units. -/
structure TradeEvent where
  flags : EventFlags
  openOrdersSlot : UInt8
  feeTier : UInt8
  released : UInt64
  paid : UInt64
  feeOrRebate : UInt64
  orderId : BitVec 128
  openOrders : Address
  clientOrderId : UInt64
  price : Float32
  quantity : Float32

namespace EventSlot

def eventFlags (s : EventSlot) : EventFlags := EventFlags.ofByte s.flags

def side (s : EventSlot) : Side := if s.eventFlags.bid then .bid else .ask

/-- Only fills with a paid amount count as trades; anything else is stale or empty. -/
def isTrade (s : EventSlot) : Bool := s.eventFlags.fill && 0 < s.paid

end EventSlot

/-- The quote amount of a trade before fees. A maker receives a rebate and a taker pays a fee, so
the sign of the fee depends on the side and on the role. -/
def amountBeforeFees (side : Side) (maker : Bool) (released paid fee : UInt64) : Int :=
  match side, maker with
  | .bid, true => (paid.toNat : Int) + fee.toNat
  | .bid, false => (paid.toNat : Int) - fee.toNat
  | .ask, true => (released.toNat : Int) - fee.toNat
  | .ask, false => (released.toNat : Int) + fee.toNat

namespace EventSlot

/-- The native amount of base tokens that changed hands. -/
def baseQuantity (s : EventSlot) : UInt64 :=
  match s.side with
  | .bid => s.released
  | .ask => s.paid

def priceBeforeFees (s : EventSlot) : Float :=
  nearestFloatOfInt (amountBeforeFees s.side s.eventFlags.maker s.released s.paid s.feeOrRebate)

/-- The displayed price: the amount before fees over the base quantity, in displayed units. -/
def price (s : EventSlot) (scale : Scale) : Float32 :=
  let top := s.priceBeforeFees * scale.baseMultiplier
  let bottom := scale.quoteMultiplier * s.baseQuantity.toFloat
  (top / bottom).toFloat32

def quantity (s : EventSlot) (scale : Scale) : Float32 :=
  (s.baseQuantity.toFloat / scale.baseMultiplier).toFloat32

def toTrade (s : EventSlot) (scale : Scale) : TradeEvent where
  flags := s.eventFlags
  openOrdersSlot := s.openOrdersSlot
  feeTier := s.feeTier
  released := s.released
  paid := s.paid
  feeOrRebate := s.feeOrRebate
  orderId := s.orderId
  openOrders := s.openOrders
  clientOrderId := s.clientOrderId
  price := s.price scale
  quantity := s.quantity scale

/-- The trade that a slot records, if any. -/
def trade? (s : EventSlot) (scale : Scale) : Option TradeEvent :=
  if s.isTrade then some (s.toTrade scale) else none

end EventSlot

namespace TradeEvent

def side (e : TradeEvent) : Side := if e.flags.bid then .bid else .ask

def isMaker (e : TradeEvent) : Bool := e.flags.maker

def priceBeforeFees (e : TradeEvent) : Float :=
  nearestFloatOfInt (amountBeforeFees e.side e.isMaker e.released e.paid e.feeOrRebate)

end TradeEvent

end SerumDex
