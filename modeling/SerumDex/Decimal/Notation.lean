import SerumDex.Decimal.Shortest

namespace SerumDex.Decimal

/-- Positional spelling is used while the place of the point lies above `minPoint` and not above
`maxPoint`. -/
structure Spelling where
  format : BinaryFormat
  minPoint : Int
  maxPoint : Int

/-- Single precision: positional from `10 ^ (-6)` on and below `10 ^ 13`. -/
def single : Spelling := ⟨binary32, -6, 13⟩

/-- Double precision: positional from `10 ^ (-5)` on and below `10 ^ 16`. -/
def double : Spelling := ⟨binary64, -5, 16⟩

def zeros (n : Nat) : String := String.ofList (List.replicate n '0')

/-- A positive decimal; a whole number keeps a zero after its point. -/
def Spelling.spell (s : Spelling) (x : Expansion) : String :=
  let digits := x.digits.repr
  let n : Int := digits.length
  if s.minPoint < x.point ∧ x.point ≤ 0 then "0." ++ zeros (-x.point).toNat ++ digits
  else if 0 < x.point ∧ x.point < n then
    String.ofList (digits.toList.take x.point.toNat) ++ "."
      ++ String.ofList (digits.toList.drop x.point.toNat)
  else if n ≤ x.point ∧ x.point ≤ s.maxPoint then digits ++ zeros (x.point - n).toNat ++ ".0"
  else
    let first := String.ofList (digits.toList.take 1)
    let rest := String.ofList (digits.toList.drop 1)
    let mantissa := if rest.isEmpty then first else first ++ "." ++ rest
    mantissa ++ (if x.point < 1 then "e-" else "e+") ++ (x.point - 1).natAbs.repr

/-- The text of the number with these bits, or nothing for an infinity or a NaN. -/
def Spelling.ofBits? (s : Spelling) (exponentBits bits : Nat) : Option String :=
  let fraction := bits % 1 <<< s.format.fractionBits
  let exponentField := bits >>> s.format.fractionBits % 1 <<< exponentBits
  let sign := if bits.testBit (s.format.fractionBits + exponentBits) then "-" else ""
  if exponentField = 1 <<< exponentBits - 1 then none
  else if exponentField = 0 ∧ fraction = 0 then some (sign ++ "0.0")
  else some (sign ++ s.spell (shortest (s.format.decode exponentField fraction)))

def singleText? (x : Float32) : Option String := single.ofBits? 8 x.toBits.toNat

def doubleText? (x : Float) : Option String := double.ofBits? 11 x.toBits.toNat

/-- Doubles end below ten to this power, and whatever lies below ten to the opposite power is nearer
to zero than to any of them. -/
def doubleReach : Int := 400

/-- The double nearest to `significand * 10 ^ exponent`, a tie going to the even one; nothing if the
decimal is too large for a double. -/
def nearestDouble? (significand : Nat) (exponent : Int) : Option Float :=
  let point : Int := significand.repr.length + exponent
  if significand = 0 ∨ point < -doubleReach then some 0
  else if doubleReach < point then none
  else
    let x := Float.ofScientific significand (exponent < 0) exponent.natAbs
    if x.isInf then none else some x

end SerumDex.Decimal
