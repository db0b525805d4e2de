namespace SerumDex

/-- `acc * base ^ n` by repeated squaring, multiplying in the order of the bits of `n`. -/
def powBySquaring (acc base : Float) (n : Nat) : Float :=
  let acc := if n % 2 = 1 then acc * base else acc
  if n / 2 = 0 then acc else powBySquaring acc (base * base) (n / 2)
termination_by n
decreasing_by omega

/-- The double for ten to the `n`, with the rounding of repeated squaring. -/
def powTen (n : Nat) : Float := powBySquaring 1 10 n

/-- The double nearest to a natural number, a tie going to the even one. Above 64 bits the number
is halved first, and the bit that drops out is kept in the last place, so that no tie appears or
disappears. -/
def nearestFloat (n : Nat) : Float :=
  if n < UInt64.size then n.toUInt64.toFloat
  else 2 * nearestFloat (if n % 2 = 1 ∧ n / 2 % 2 = 0 then n / 2 + 1 else n / 2)
termination_by n
decreasing_by
  simp only [UInt64.size] at *
  split <;> omega

/-- The double nearest to an integer, a tie going to the even one; zero has no sign. -/
def nearestFloatOfInt (z : Int) : Float :=
  if z < 0 then -nearestFloat z.natAbs else nearestFloat z.natAbs

structure Scale where
  baseDecimals : UInt8
  quoteDecimals : UInt8
  baseLotSize : UInt64
  quoteLotSize : UInt64
  deriving DecidableEq

namespace Scale

def baseMultiplier (s : Scale) : Float := powTen s.baseDecimals.toNat

def quoteMultiplier (s : Scale) : Float := powTen s.quoteDecimals.toNat

/-- A price in lots as a displayed price. -/
def priceLotsToNumber (s : Scale) (lots : UInt64) : Float :=
  let top := lots.toFloat * s.quoteLotSize.toFloat * s.baseMultiplier
  let bottom := s.baseLotSize.toFloat * s.quoteMultiplier
  top / bottom

/-- A displayed price as a whole number of lots, rounded half away from zero and clamped. -/
def priceNumberToLots (s : Scale) (price : Float) : UInt64 :=
  let top := price * s.quoteMultiplier * s.baseLotSize.toFloat
  let bottom := s.baseMultiplier * s.quoteLotSize.toFloat
  (top / bottom).round.toUInt64

def baseSizeLotsToNumber (s : Scale) (lots : UInt64) : Float :=
  lots.toFloat * s.baseLotSize.toFloat / s.baseMultiplier

def baseSizeNumberToLots (s : Scale) (size : Float) : UInt64 :=
  (size * s.baseMultiplier / s.baseLotSize.toFloat).round.toUInt64

def quoteSizeLotsToNumber (s : Scale) (lots : UInt64) : Float :=
  lots.toFloat * s.quoteLotSize.toFloat / s.quoteMultiplier

/-- The smallest size that can be traded: one base lot. -/
def minOrderSize (s : Scale) : Float := s.baseSizeLotsToNumber 1

/-- The smallest step of the price: one price lot. -/
def tickSize (s : Scale) : Float := s.priceLotsToNumber 1

end Scale

end SerumDex
