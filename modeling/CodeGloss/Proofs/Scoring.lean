import CodeGloss.Scoring
import Mathlib.Algebra.Ring.Nat

/-! # The points of a score

A score is meant to be a sum in the natural numbers, the **points**.  It is computed in steps of 64
bits, of which each is checked; but every step is a part of the sum, so a step fails only if the
points themselves do not fit in 64 bits (`exists_score_iff`).
-/
namespace CodeGloss

/-- Two steps come to an end if and only if each of them does. -/
theorem bind_eq_ok_iff {ε α β : Type} {x : Except ε α} {f : α → Except ε β} {b : β} :
    x >>= f = .ok b ↔ ∃ a, x = .ok a ∧ f a = .ok b := by
  cases x <;> simp [bind, Except.bind]

namespace Scoring

/-- One point for each line and the weights for functions and classes, as natural numbers. -/
def points (s : Scoring) (lines functions classes : Nat) : Nat :=
  lines + functions * s.functionWeight.toNat + classes * s.classWeight.toNat

/-- The points rise with the weights and with what is counted. -/
theorem points_mono {s s' : Scoring} {lines functions classes lines' functions' classes' : Nat}
    (hfunctionWeight : s.functionWeight ≤ s'.functionWeight)
    (hclassWeight : s.classWeight ≤ s'.classWeight) (hlines : lines ≤ lines')
    (hfunctions : functions ≤ functions') (hclasses : classes ≤ classes') :
    s.points lines functions classes ≤ s'.points lines' functions' classes' := by
  have hforFunctions : functions * s.functionWeight.toNat ≤ functions' * s'.functionWeight.toNat :=
    Nat.mul_le_mul hfunctions (UInt64.le_iff_toNat_le.mp hfunctionWeight)
  have hforClasses : classes * s.classWeight.toNat ≤ classes' * s'.classWeight.toNat :=
    Nat.mul_le_mul hclasses (UInt64.le_iff_toNat_le.mp hclassWeight)
  unfold points
  omega

theorem product_eq_ok {a b : UInt64} (h : a.toNat * b.toNat < 2 ^ 64) :
    product a b = .ok (a * b) :=
  if_pos h

theorem sum_eq_ok {a b : UInt64} (h : a.toNat + b.toNat < 2 ^ 64) : sum a b = .ok (a + b) :=
  if_pos h

variable {s : Scoring} {lines functions classes score : UInt64}

/-- The steps of a score. -/
theorem score_eq_ok_iff : s.score lines functions classes = .ok score ↔
    ∃ forFunctions, product functions s.functionWeight = .ok forFunctions ∧
      ∃ withFunctions, sum lines forFunctions = .ok withFunctions ∧
        ∃ forClasses, product classes s.classWeight = .ok forClasses ∧
          sum withFunctions forClasses = .ok score := by
  simp only [Scoring.score, bind_eq_ok_iff]

/-- A score that is computed is exact. -/
theorem toNat_score (h : s.score lines functions classes = .ok score) :
    score.toNat = s.points lines.toNat functions.toNat classes.toNat := by
  obtain ⟨forFunctions, hfunctions, withFunctions, hsum, forClasses, hclasses, hlast⟩ := score_eq_ok_iff.mp h
  rw [sum_toNat hlast, sum_toNat hsum, product_toNat hfunctions, product_toNat hclasses, points]

/-- **A score is computed if and only if the points fit in 64 bits.** -/
theorem exists_score_iff (s : Scoring) (lines functions classes : UInt64) :
    (∃ score, s.score lines functions classes = .ok score) ↔
      s.points lines.toNat functions.toNat classes.toNat < 2 ^ 64 := by
  constructor
  · rintro ⟨score, h⟩
    rw [← toNat_score h]
    exact score.toNat_lt
  · intro h
    unfold points at h
    -- each step is a part of the sum
    have hfunctions := product_eq_ok (a := functions) (b := s.functionWeight) (by omega)
    have hsum := sum_eq_ok (a := lines) (b := functions * s.functionWeight)
      (by rw [product_toNat hfunctions]; omega)
    have hclasses := product_eq_ok (a := classes) (b := s.classWeight) (by omega)
    have hlast := sum_eq_ok (a := lines + functions * s.functionWeight)
      (b := classes * s.classWeight) (by
        rw [sum_toNat hsum, product_toNat hfunctions, product_toNat hclasses]
        omega)
    exact ⟨_, score_eq_ok_iff.mpr ⟨_, hfunctions, _, hsum, _, hclasses, hlast⟩⟩

end Scoring
end CodeGloss
