import CodeGloss.Text.Basic

/-! # Scoring

A complexity score is a weighted sum of tallies, and two thresholds cut the scores into three tiers.
Scores and weights are 64-bit numbers.  The sum is built up from the left, and the first product or
sum that does not fit in 64 bits is the one that is reported.
-/

namespace CodeGloss

/-- The tiers of complexity, from the lowest to the highest. -/
inductive Tier
  | low
  | medium
  | high
  deriving DecidableEq, Repr

namespace Tier

/-- What a tier is called. -/
def name : Tier → Text
  | low => "Low".toList
  | medium => "Medium".toList
  | high => "High".toList

/-- All tiers, from the lowest to the highest. -/
def all : List Tier := [low, medium, high]

/-- The place of a tier among the tiers. -/
def rank : Tier → Nat
  | low => 0
  | medium => 1
  | high => 2

end Tier

/-- The step of a score that does not fit in 64 bits. -/
inductive Overflow
  | product
  | sum
  deriving DecidableEq, Repr

/-- What is said of a score that does not fit. -/
def Overflow.message : Overflow → Text
  | product => "attempt to multiply with overflow".toList
  | sum => "attempt to add with overflow".toList

/-- The weights of a score and the thresholds of the tiers. -/
structure Scoring where
  /-- Points for each function that is defined. -/
  functionWeight : UInt64 := 5
  /-- Points for each class that is defined. -/
  classWeight : UInt64 := 10
  /-- The lowest score of the medium tier. -/
  mediumThreshold : UInt64 := 20
  /-- The lowest score of the high tier. -/
  highThreshold : UInt64 := 50
  deriving DecidableEq, Repr

namespace Scoring

/-- The product of two 64-bit numbers, if it fits. -/
def product (a b : UInt64) : Except Overflow UInt64 :=
  if a.toNat * b.toNat < UInt64.size then .ok (a * b) else .error .product

/-- The sum of two 64-bit numbers, if it fits. -/
def sum (a b : UInt64) : Except Overflow UInt64 :=
  if a.toNat + b.toNat < UInt64.size then .ok (a + b) else .error .sum

/-- One point for each line, and the weights for functions and classes. -/
def score (s : Scoring) (lines functions classes : UInt64) : Except Overflow UInt64 := do
  let forFunctions ← product functions s.functionWeight
  let withFunctions ← sum lines forFunctions
  let forClasses ← product classes s.classWeight
  sum withFunctions forClasses

/-- The tier of a score: the first threshold above it decides. -/
def tier (s : Scoring) (score : UInt64) : Tier :=
  if score < s.mediumThreshold then .low
  else if score < s.highThreshold then .medium
  else .high

theorem product_toNat {a b c : UInt64} (h : product a b = .ok c) : c.toNat = a.toNat * b.toNat := by
  unfold product at h
  split at h
  · next hlt =>
    obtain rfl := Except.ok.inj h
    rw [UInt64.toNat_mul, Nat.mod_eq_of_lt hlt]
  · cases h

theorem sum_toNat {a b c : UInt64} (h : sum a b = .ok c) : c.toNat = a.toNat + b.toNat := by
  unfold sum at h
  split at h
  · next hlt =>
    obtain rfl := Except.ok.inj h
    rw [UInt64.toNat_add, Nat.mod_eq_of_lt hlt]
  · cases h

end Scoring
end CodeGloss
