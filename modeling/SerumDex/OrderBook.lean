import SerumDex.Account.Flags
import SerumDex.Trade

/-! One side of an order book. The tree of orders stays undecoded: its bytes are kept with the scale
that is needed to read them. -/
namespace SerumDex

structure OrderBookSide where
  address : Address
  side : Side
  flags : AccountFlags
  scale : Scale
  slab : Bytes
  deriving DecidableEq

/-- The kind of account that holds a side. -/
def Side.accountKind : Side → AccountKind
  | bid => .bids
  | ask => .asks

def decodeOrderBookSide (address : Address) (side : Side) (data : Bytes) (scale : Scale) :
    Except DecodeError OrderBookSide := do
  let flags ← decodeHead side.accountKind data
  return {
    address := address
    side := side
    flags := flags
    scale := scale
    slab := data.drop accountHeadSize }

end SerumDex
