import CodeGloss.Text.Basic

/-! # Decimal numerals

Numbers are written in decimal digits, without leading zeros.
-/

namespace CodeGloss
namespace Text

/-- The decimal digits of a number. -/
def decimal (n : Nat) : Text :=
  Nat.toDigits 10 n

/-- The decimal digits of a 64-bit number. -/
def decimal64 (n : UInt64) : Text :=
  decimal n.toNat

end Text
end CodeGloss
