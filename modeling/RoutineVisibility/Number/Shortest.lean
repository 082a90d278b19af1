import RoutineVisibility.Number.Binary64

/-! The shortest decimal text that reads back as a binary64 value. -/
namespace RoutineVisibility.Number

/-- A positive finite value as a fraction, from its encoding. -/
def fractionOfBits (bits : Nat) : Nat × Nat :=
  let field : Nat := bits / twoTo 52
  let rest := bits % twoTo 52
  let m := if field = 0 then rest else rest + twoTo 52
  let u : Int := max 1 field - 1075
  (m * twoTo u.toNat, twoTo (-u).toNat)

/-- The `p` with `10 ^ (p - 1) ≤ num / den < 10 ^ p`, for a positive fraction that is no negative
power of ten. -/
def pointPosition (num den : Nat) : Int :=
  if den ≤ num then digitCount (num / den) else 1 - digitCount (den / num)

/-- The numerals with `n` digits next to the value that read back as it: the nearest one, if there
is any. -/
def readBackWith (bits num den : Nat) (p : Int) (n : Nat) : Option Nat :=
  let e := p - n
  let top := num * tenTo (-e).toNat
  let bottom := den * tenTo e.toNat
  let low := top / bottom
  let reads (c : Nat) : Bool := nearestBits (c * tenTo e.toNat) (tenTo (-e).toNat) = bits
  let near := divRoundEven top bottom
  if reads near then some near else if reads low then some low
  else if reads (low + 1) then some (low + 1) else none

/-- Coefficient and exponent of the shortest numeral; seventeen digits always read back. -/
def shortest (bits : Nat) : Nat × Int :=
  let (num, den) := fractionOfBits bits
  let p := pointPosition num den
  let hit := (List.range 17).findSome? fun i =>
    (readBackWith bits num den p (i + 1)).map (·, p - (i + 1 : Nat))
  hit.getD (0, 0)

def significantDigits (n : Nat) : List Char :=
  ((Nat.toDigits 10 n).reverse.dropWhile (· == '0')).reverse

def zeros (n : Nat) : List Char :=
  List.replicate n '0'

def magnitudeText (bits : Nat) : String :=
  if bits = 0 then "0.0"
  else if infinityBits < bits then "nan"
  else if bits = infinityBits then "inf"
  else
    let (n, e) := shortest bits
    let p : Int := e + digitCount n
    let ds := significantDigits n
    String.ofList <|
      if p ≤ -4 || 16 < p then
        let x := (p - 1).natAbs
        let tail := if ds.length ≤ 1 then [] else '.' :: ds.drop 1
        let exponent := Nat.toDigits 10 x
        ds.take 1 ++ tail ++ ['e', if p < 1 then '-' else '+'] ++ zeros (2 - exponent.length) ++
          exponent
      else if p ≤ 0 then
        ['0', '.'] ++ zeros (-p).toNat ++ ds
      else if ds.length ≤ p.toNat then
        ds ++ zeros (p.toNat - ds.length) ++ ['.', '0']
      else ds.take p.toNat ++ ['.'] ++ ds.drop p.toNat

def floatText (x : Float) : String :=
  let bits := x.toBits.toNat
  let magnitude := bits % signBit
  let text := magnitudeText magnitude
  if signBit ≤ bits && magnitude ≤ infinityBits then "-" ++ text else text

end RoutineVisibility.Number
