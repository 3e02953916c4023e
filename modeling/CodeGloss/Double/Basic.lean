/-! # Double precision numbers

A double is a sign, a mantissa of at most 53 bits and a power of two.  Values are computed exactly
on natural numbers and rounded once to the nearest double; a value half way between two goes to the
one with the even mantissa.  Values below the range lose bits and end at zero; values above it are
no double.
-/

namespace CodeGloss

/-- A double precision number: `mantissa * 2 ^ exponent`, with a sign. -/
structure Double where
  /-- Whether the sign is minus. -/
  negative : Bool := false
  /-- The mantissa, below `2 ^ 53`. -/
  mantissa : Nat
  /-- The power of two. -/
  exponent : Int
  deriving DecidableEq, Repr

namespace Double

/-- The bits of a mantissa. -/
def precision : Nat := 53

/-- The least power of two. -/
def minExponent : Int := -1074

/-- The greatest power of two. -/
def maxExponent : Int := 971

/-- Zero. -/
def zero : Double := ⟨false, 0, minExponent⟩

/-- The integer nearest to a quotient, the even one of two that are equally near. -/
def roundHalfEven (num den : Nat) : Nat :=
  let q := num / den
  let r := num % den
  if 2 * r < den then q else if den < 2 * r then q + 1 else if q % 2 = 0 then q else q + 1

/-- A quotient divided by a power of two, as a quotient. -/
def divPow2 (num den : Nat) (exponent : Int) : Nat × Nat :=
  if 0 ≤ exponent then (num, den * Nat.pow 2 exponent.toNat)
  else (num * Nat.pow 2 (-exponent).toNat, den)

/-- The greatest power of two that is not above a positive quotient. -/
def log2Floor (num den : Nat) : Int :=
  let k : Int := (num.log2 : Int) - den.log2
  let (n, d) := divPow2 num den k
  if d ≤ n then k else k - 1

/-- The double nearest to a quotient; none if that lies above the range. -/
def ofQuotient (num den : Nat) : Option Double :=
  if num = 0 then some zero
  else
    let exponent := max minExponent (log2Floor num den - (precision - 1))
    let (n, d) := divPow2 num den exponent
    let mantissa := roundHalfEven n d
    let rounded : Double :=
      if mantissa = Nat.pow 2 precision then ⟨false, Nat.pow 2 (precision - 1), exponent + 1⟩
      else ⟨false, mantissa, exponent⟩
    if maxExponent < rounded.exponent then none else some rounded

/-- The value without its sign, as a quotient. -/
def quotient (x : Double) : Nat × Nat :=
  divPow2 x.mantissa 1 (-x.exponent)

/-- The product without signs, rounded. -/
def times (x y : Double) : Option Double :=
  let (a, b) := x.quotient
  let (c, d) := y.quotient
  ofQuotient (a * c) (b * d)

/-- The quotient without signs, rounded; `y` is not zero. -/
def dividedBy (x y : Double) : Option Double :=
  let (a, b) := x.quotient
  let (c, d) := y.quotient
  ofQuotient (a * d) (b * c)

/-- The greatest power of ten that is a double. -/
def maxTenPower : Nat := 308

/-- A number divided by a power of ten, in steps of at most `maxTenPower` that are rounded one by
one.  Three steps leave nothing of a 64-bit number. -/
def overTen : (steps : Nat) → Double → Nat → Option Double
  | 0, _, _ => some zero
  | steps + 1, x, power =>
    if power ≤ maxTenPower then (ofQuotient (Nat.pow 10 power) 1).bind x.dividedBy
    else if x.mantissa = 0 then some zero
    else ((ofQuotient (Nat.pow 10 maxTenPower) 1).bind x.dividedBy).bind fun y =>
      overTen steps y (power - maxTenPower)

/-- The number `significand * 10 ^ power`, where the significand, the power of ten and their product
or quotient are each rounded; none if it lies above the range. -/
def ofDecimal (significand : Nat) (power : Int) : Option Double :=
  (ofQuotient significand 1).bind fun x =>
    if power < 0 then overTen 3 x (-power).toNat
    else if power.toNat ≤ maxTenPower then (ofQuotient (Nat.pow 10 power.toNat) 1).bind x.times
    else if x.mantissa = 0 then some zero
    else none

end Double
end CodeGloss
