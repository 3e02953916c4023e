import CodeGloss.Explanation.Basic
import CodeGloss.Proofs.Measures.Size
import CodeGloss.Settings.Store

/-! # When there is an explanation

The score is the only part of an explanation that can fail, so there is an explanation if and only
if the points of the snippet fit in 64 bits.  With the default weights they always do
(`Measures.points_le_octets`).  But settings that are read from a file may have any weights: whether
settings are in order is a matter of their thresholds alone.
-/
namespace CodeGloss
namespace Explanation

open Text Measures

variable {settings : Settings} {code : Text} {e : Explanation}

theorem ofCode_measures (h : ofCode settings code = .ok e) :
    Measures.ofCode settings.scoring code = .ok e.measures := by
  obtain ⟨m, hm, he⟩ := bind_eq_ok_iff.mp h
  obtain rfl := Except.ok.inj he
  exact hm

/-- An explanation fails only with the measures. -/
theorem exists_ofCode_iff_measures (settings : Settings) (code : Text) :
    (∃ e, ofCode settings code = .ok e) ↔
      ∃ m, Measures.ofCode settings.scoring code = .ok m := by
  constructor
  · rintro ⟨e, he⟩
    exact ⟨e.measures, ofCode_measures he⟩
  · rintro ⟨m, hm⟩
    exact ⟨_, bind_eq_ok_iff.mpr ⟨m, hm, rfl⟩⟩

/-- **There is an explanation if and only if the points of the snippet fit in 64 bits**, whatever
the settings; and the measures in it are true. -/
theorem exists_explanation_iff (settings : Settings)
    (hcode : (Utf8.encode code).length < 2 ^ 63) :
    ((∃ e, ofCode settings code = .ok e) ↔
        settings.scoring.points (filledLineCount code) (functionPattern.count code)
          (classPattern.count code) < 2 ^ 64) ∧
      ∀ e, ofCode settings code = .ok e → IsExact settings.scoring code e.measures := by
  constructor
  · rw [exists_ofCode_iff_measures]
    exact exists_ofCode_iff_points settings.scoring hcode
  · intro e he
    exact isExact_of_ofCode hcode (ofCode_measures he)

/-- Settings in order, with the greatest weight there is for functions. -/
def heaviest : Settings where
  scoring.functionWeight := 18446744073709551615

/-- One line and one function are too much for the greatest weight. -/
theorem not_exists_explanation_heaviest : ¬ ∃ e, ofCode heaviest "def a".toList = .ok e := by
  intro h
  exact absurd ((exists_explanation_iff heaviest (by decide)).1.mp h) (by decide)

/-- **Settings that are read from a text can leave a snippet without an explanation.** -/
theorem ofCode_heaviest :
    Settings.ofText "\x7b\"scoring\":\x7b\"function_weight\":18446744073709551615\x7d\x7d".toList =
        .ok heaviest ∧
      heaviest.conflict? = none ∧ ofCode heaviest "def a".toList = .error .sum :=
  ⟨rfl, rfl, rfl⟩

end Explanation
end CodeGloss
