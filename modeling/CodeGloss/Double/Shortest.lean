import CodeGloss.Double.Basic
import CodeGloss.Text.Decimal

/-! # The shortest decimal of a double

A double is written with the fewest digits that read back as it.  The numbers that round to a double
form an interval around it, closed if the mantissa is even.  Of the grids `10 ^ k` the coarsest that
has a point in the interval is taken, and on it the point nearest to the double; that point has the
fewest digits.
-/

namespace CodeGloss
namespace Double

open Text

/-- A fraction of natural numbers, not necessarily reduced. -/
structure Ratio where
  /-- The numerator. -/
  num : Nat
  /-- The denominator. -/
  den : Nat

/-- Whether one fraction is at most another. -/
def Ratio.le (x y : Ratio) : Bool :=
  x.num * y.den ≤ y.num * x.den

/-- Whether one fraction is less than another. -/
def Ratio.lt (x y : Ratio) : Bool :=
  x.num * y.den < y.num * x.den

/-- A number of quarters of a unit of the mantissa. -/
def quarters (x : Double) (n : Nat) : Ratio :=
  let (num, den) := divPow2 n 4 (-x.exponent)
  ⟨num, den⟩

/-- The lower end of the interval that rounds to the double.  It is nearer where the mantissa is the
least one, as the doubles below are closer together there. -/
def lowerEnd (x : Double) : Ratio :=
  if x.mantissa = Nat.pow 2 (precision - 1) && decide (minExponent < x.exponent) then
    x.quarters (4 * x.mantissa - 1)
  else x.quarters (4 * x.mantissa - 2)

/-- The upper end of the interval that rounds to the double. -/
def upperEnd (x : Double) : Ratio :=
  x.quarters (4 * x.mantissa + 2)

/-- Whether a fraction rounds to the double. -/
def takesIn (x : Double) (y : Ratio) : Bool :=
  if x.mantissa % 2 = 0 then x.lowerEnd.le y && y.le x.upperEnd
  else x.lowerEnd.lt y && y.lt x.upperEnd

/-- The point `n * 10 ^ k`. -/
def gridPoint (n : Nat) (k : Int) : Ratio :=
  if 0 ≤ k then ⟨n * Nat.pow 10 k.toNat, 1⟩ else ⟨n, Nat.pow 10 (-k).toNat⟩

/-- The number of the point of the grid `10 ^ k` that is nearest to the double among those that
round to it, if there is one. -/
def nearest? (x : Double) (k : Int) : Option Nat :=
  let value := x.quarters (4 * x.mantissa)
  let unit := gridPoint 1 k
  let below := value.num * unit.den / (value.den * unit.num)
  let twice := 2 * value.num * unit.den
  let middle := (2 * below + 1) * (value.den * unit.num)
  let lowerIn := decide (0 < below) && x.takesIn (gridPoint below k)
  let upperIn := x.takesIn (gridPoint (below + 1) k)
  if lowerIn && upperIn then
    if twice < middle || (twice = middle && below % 2 = 0) then some below else some (below + 1)
  else if lowerIn then some below
  else if upperIn then some (below + 1)
  else none

/-- The point of the coarsest grid that has one, among the grids `10 ^ k` for `k` and the `steps`
grids below it. -/
def coarsest (x : Double) : (steps : Nat) → Int → Nat × Int
  | 0, k => (0, k)
  | steps + 1, k =>
    match x.nearest? k with
    | some n => (n, k)
    | none => coarsest x steps (k - 1)

/-- The exponents of ten whose numbers are written without an exponent. -/
def isPositional (exponent : Int) : Bool :=
  -5 ≤ exponent && exponent ≤ 15

/-- The digits with a point, where the digits are a whole number of units `10 ^ k`.  A number always
shows a fraction or an exponent. -/
def layout (digits : Text) (k : Int) : Text :=
  let point : Int := digits.length + k
  if isPositional (point - 1) then
    if 0 ≤ k then digits ++ List.replicate k.toNat '0' ++ ".0".toList
    else if 0 < point then digits.take point.toNat ++ '.' :: digits.drop point.toNat
    else "0.".toList ++ List.replicate (-point).toNat '0' ++ digits
  else
    let fraction := if digits.length ≤ 1 then [] else '.' :: digits.drop 1
    let exponent := point - 1
    let sign := if exponent < 0 then '-' else '+'
    digits.take 1 ++ fraction ++ 'e' :: sign :: decimal exponent.natAbs

/-- The shortest decimal of a double. -/
def shortest (x : Double) : Text :=
  let size :=
    if x.mantissa = 0 then "0.0".toList
    else
      let (n, k) := coarsest x 640 309
      layout (decimal n) k
  if x.negative then '-' :: size else size

end Double
end CodeGloss
