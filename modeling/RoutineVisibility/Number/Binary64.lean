import RoutineVisibility.Number.Power

/-! Numbers to binary64, rounded to the nearest value with ties to the even one. -/
namespace RoutineVisibility.Number

/-- The integer nearest to `num / den`; a half goes to the even neighbour. -/
def divRoundEven (num den : Nat) : Nat :=
  let q := num / den
  let r := num % den
  if 2 * r < den then q else if den < 2 * r then q + 1 else q + q % 2

/-- The exponent `e` with `2 ^ e ≤ num / den < 2 ^ (e + 1)`, for positive arguments. -/
def binaryExponent (num den : Nat) : Int :=
  let k : Int := num.log2 - den.log2
  if den * twoTo k.toNat ≤ num * twoTo (-k).toNat then k else k - 1

def infinityBits : Nat := 0x7ff0000000000000

def signBit : Nat := 0x8000000000000000

/-- The encoding of the binary64 value nearest to `num / den`; from the middle above the largest one
on, infinity. -/
def nearestBits (num den : Nat) : Nat :=
  if num = 0 then 0
  else
    let u := max (binaryExponent num den - 52) (-1074)
    let m := divRoundEven (num * twoTo (-u).toNat) (den * twoTo u.toNat)
    min infinityBits ((u + 1074).toNat * twoTo 52 + m)

/-- The number of decimal digits, at least one. -/
def digitCount (n : Nat) : Nat :=
  (Nat.toDigits 10 n).length

/-- A decimal numeral: `coefficient * 10 ^ exponent` and a sign, which a zero has too. -/
structure Decimal where
  negative : Bool
  coefficient : Nat
  exponent : Int
deriving DecidableEq, Repr

/-- Exponents that leave the range of binary64 by far are settled without writing the power out. -/
def Decimal.magnitudeBits (d : Decimal) : Nat :=
  let top := d.exponent + digitCount d.coefficient
  if d.coefficient = 0 || top < -400 then 0
  else if 400 < top then infinityBits
  else nearestBits (d.coefficient * tenTo d.exponent.toNat) (tenTo (-d.exponent).toNat)

def Decimal.toFloat (d : Decimal) : Float :=
  Float.ofBits (UInt64.ofNat (d.magnitudeBits + if d.negative then signBit else 0))

/-- The float nearest to an integer, if it is finite. -/
def floatOfInt? (n : Int) : Option Float :=
  let bits := nearestBits n.natAbs 1
  if bits = infinityBits then none
  else some (Float.ofBits (UInt64.ofNat (bits + if n < 0 then signBit else 0)))

end RoutineVisibility.Number
