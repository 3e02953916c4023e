import CodeGloss.Double.Shortest

/-! # Numbers of the format

A numeral without a fraction and an exponent is an integer if it fits in 64 bits, as a natural
number or, with a minus sign, as a negative one.  Every other numeral is a double; so is minus zero.
-/

namespace CodeGloss
namespace Json

open Text

/-- The numbers that a numeral can stand for. -/
inductive Number
  /-- A natural number below `2 ^ 64`. -/
  | natural (n : UInt64)
  /-- The negative number `-n`, not below `-2 ^ 63`. -/
  | negative (n : Nat)
  /-- Any other number, rounded to a double. -/
  | double (x : Double)
  deriving DecidableEq, Repr

namespace Number

/-- What a number is called in a message. -/
def describe : Number → Text
  | natural n => "integer `".toList ++ decimal64 n ++ "`".toList
  | negative n => "integer `-".toList ++ decimal n ++ "`".toList
  | double x => "floating point `".toList ++ x.shortest ++ "`".toList

/-- The number that an integer numeral of 64 bits stands for. -/
def ofInteger (minus : Bool) (n : Nat) : Number :=
  if minus then
    if n = 0 || Nat.pow 2 63 < n then
      double { (Double.ofQuotient n 1).getD .zero with negative := true }
    else negative n
  else natural n.toUInt64

end Number
end Json
end CodeGloss
