/-! The shortest decimals of binary floating-point numbers: the fewest digits that read back as the
same number, and of those the nearest to it. All arithmetic is exact. -/
namespace SerumDex.Decimal

/-- A binary interchange format: how many bits of the fraction are stored, and the bias of the
exponent. -/
structure BinaryFormat where
  fractionBits : Nat
  bias : Int

def binary32 : BinaryFormat := ⟨23, 127⟩

def binary64 : BinaryFormat := ⟨52, 1023⟩

/-- A positive finite number as `significand * 2 ^ exponent`, and whether its lower neighbour is
only half as far away as its upper one. -/
structure Binary where
  significand : Nat
  exponent : Int
  narrowBelow : Bool

def BinaryFormat.decode (f : BinaryFormat) (exponentField fraction : Nat) : Binary :=
  if exponentField = 0 then ⟨fraction, 1 - f.bias - f.fractionBits, false⟩
  else
    ⟨1 <<< f.fractionBits + fraction, exponentField - f.bias - f.fractionBits,
      fraction = 0 && 1 < exponentField⟩

/-- A positive decimal `0.d₁…dₙ * 10 ^ point`, its digits read as one number. -/
structure Expansion where
  digits : Nat
  point : Int
  deriving DecidableEq, Repr

def scaleRatio (e k : Int) : Nat × Nat :=
  (1 <<< e.toNat * Nat.pow 10 (-k).toNat, 1 <<< (-e).toNat * Nat.pow 10 k.toNat)

namespace Binary

/-- Four times the significand, and the ends of the interval of reals that round to the number, in
units of a quarter of the last place. -/
def low (b : Binary) : Nat := 4 * b.significand - (if b.narrowBelow then 1 else 2)

def high (b : Binary) : Nat := 4 * b.significand + 2

/-- Whether `d * 10 ^ k` reads back as the number. The ends belong to even significands. -/
def holds (b : Binary) (d : Nat) (k : Int) : Bool :=
  let (num, den) := scaleRatio (b.exponent - 2) k
  if b.significand % 2 = 0 then b.low * num ≤ d * den && d * den ≤ b.high * num
  else b.low * num < d * den && d * den < b.high * num

/-- The one of the number's two neighbours on the grid of multiples of `10 ^ k` that reads back, the
nearer one if both do and the even one if they are equally near. -/
def onGrid? (b : Binary) (k : Int) : Option Nat :=
  let (num, den) := scaleRatio (b.exponent - 2) k
  -- The number lies between `d` and `d + 1` on the grid; distances are compared times `den`.
  let value := 4 * b.significand * num
  let d := value / den
  let below := value - d * den
  let above := (d + 1) * den - value
  match b.holds d k, b.holds (d + 1) k with
  | true, true => if below < above || below = above && d % 2 = 0 then some d else some (d + 1)
  | true, false => some d
  | false, true => some (d + 1)
  | false, false => none

/-- The number of digits of the number before the decimal point, negative for a number below a
tenth. -/
def magnitude (b : Binary) : Int :=
  -- The factor is close to the decimal logarithm of two: the estimate is too small by two at most.
  let estimate := (b.significand.log2 + b.exponent) * 30103 / 100000
  let reaches (k : Int) : Bool :=
    let (num, den) := scaleRatio b.exponent k
    den ≤ b.significand * num
  if reaches (estimate + 1) then estimate + 2 else if reaches estimate then estimate + 1 else estimate

/-- The first grid with a hit, trying `count` of them from a given one to finer ones. -/
def firstHit (b : Binary) : Nat → Int → Option (Nat × Int)
  | 0, _ => none
  | count + 1, k =>
    match b.onGrid? k with
    | some d => some (d, k)
    | none => b.firstHit count (k - 1)

end Binary

/-- Drops the zeros at the end of a number's decimal digits, at most `room` of them. -/
def dropZeros : Nat → Nat → Nat
  | 0, n => n
  | room + 1, n => if n ≠ 0 ∧ n % 10 = 0 then dropZeros room (n / 10) else n

/-- The shortest decimal of a positive number. Seventeen digits always suffice. -/
def shortest (b : Binary) : Expansion :=
  match b.firstHit 17 (b.magnitude - 1) with
  | some (d, k) => ⟨dropZeros 20 d, k + d.repr.length⟩
  | none => ⟨0, 0⟩

end SerumDex.Decimal
