import CodeGloss.Proofs.Scoring
import CodeGloss.Settings.Store

/-! # What raises a score and a tier

More lines, more definitions or greater weights never lower a score, and they never make one fit in
64 bits that did not fit before: a score is exact where it is computed, and the points that it
stands for rise with all they are made of (`Scoring.points_mono`).

A tier is told by the thresholds that a score has reached.  So tiers rise with scores and fall with
thresholds (`Scoring.rank_tier_mono`), in whatever order the two thresholds are.  The order matters
for one thing only: there are scores of the medium tier if and only if settings are in order
(`Settings.conflict?_eq_none_iff`), and so these are the settings that are accepted.
-/
namespace CodeGloss
namespace Scoring

variable {s s' : Scoring} {lines functions classes lines' functions' classes' score score' : UInt64}

/-! ## Scores -/

/-- A score fails if and only if the points do not fit in 64 bits. -/
theorem exists_score_eq_error_iff (s : Scoring) (lines functions classes : UInt64) :
    (∃ overflow, s.score lines functions classes = .error overflow) ↔
      2 ^ 64 ≤ s.points lines.toNat functions.toNat classes.toNat := by
  rw [← Nat.not_lt, ← exists_score_iff]
  cases s.score lines functions classes <;> simp

/-- **A score that is computed was computed with less, too, and was no higher then.** -/
theorem exists_score_le (hfunctionWeight : s.functionWeight ≤ s'.functionWeight)
    (hclassWeight : s.classWeight ≤ s'.classWeight) (hlines : lines ≤ lines')
    (hfunctions : functions ≤ functions') (hclasses : classes ≤ classes')
    (h : s'.score lines' functions' classes' = .ok score') :
    ∃ score, s.score lines functions classes = .ok score ∧ score ≤ score' := by
  have hpoints := points_mono hfunctionWeight hclassWeight (UInt64.le_iff_toNat_le.mp hlines)
    (UInt64.le_iff_toNat_le.mp hfunctions) (UInt64.le_iff_toNat_le.mp hclasses)
  have hfits' := (exists_score_iff s' lines' functions' classes').mp ⟨score', h⟩
  obtain ⟨score, hscore⟩ :=
    (exists_score_iff s lines functions classes).mpr (Nat.lt_of_le_of_lt hpoints hfits')
  refine ⟨score, hscore, ?_⟩
  rw [UInt64.le_iff_toNat_le, toNat_score hscore, toNat_score h]
  exact hpoints

/-! ## Tiers -/

theorem tier_eq_medium_iff :
    s.tier score = .medium ↔ s.mediumThreshold ≤ score ∧ score < s.highThreshold := by
  unfold tier
  by_cases hlow : score < s.mediumThreshold
  · rw [if_pos hlow]
    have hnot : ¬ s.mediumThreshold ≤ score := UInt64.not_le.mpr hlow
    simp [hnot]
  · have hreached : s.mediumThreshold ≤ score := UInt64.not_lt.mp hlow
    by_cases hhigh : score < s.highThreshold <;> simp [hlow, hreached, hhigh]

/-- **A tier rises with the score and falls with the thresholds**: whatever threshold the lower
score has reached, the higher one has reached it too. -/
theorem rank_tier_mono (hscore : score ≤ score') (hmedium : s'.mediumThreshold ≤ s.mediumThreshold)
    (hhigh : s'.highThreshold ≤ s.highThreshold) :
    (s.tier score).rank ≤ (s'.tier score').rank := by
  unfold tier
  by_cases hlow : score < s.mediumThreshold
  · rw [if_pos hlow]
    exact Nat.zero_le _
  · have hreached : ¬ score' < s'.mediumThreshold := by
      intro h
      exact hlow (UInt64.lt_of_lt_of_le (UInt64.lt_of_le_of_lt hscore h) hmedium)
    rw [if_neg hlow, if_neg hreached]
    by_cases hbelow : score < s.highThreshold
    · rw [if_pos hbelow]
      split <;> decide
    · have hreached' : ¬ score' < s'.highThreshold := by
        intro h
        exact hbelow (UInt64.lt_of_lt_of_le (UInt64.lt_of_le_of_lt hscore h) hhigh)
      rw [if_neg hbelow, if_neg hreached']

end Scoring

/-- Settings are in order if and only if a score can be in the medium tier. -/
theorem Settings.conflict?_eq_none_iff (settings : Settings) :
    settings.conflict? = none ↔ ∃ score, settings.scoring.tier score = .medium := by
  have horder : settings.conflict? = none ↔
      settings.scoring.mediumThreshold < settings.scoring.highThreshold := by
    unfold Settings.conflict?
    split
    next h => exact iff_of_true rfl h
    next h => exact iff_of_false (Option.some_ne_none _) h
  rw [horder]
  constructor
  · intro h
    exact ⟨settings.scoring.mediumThreshold, Scoring.tier_eq_medium_iff.mpr ⟨UInt64.le_refl _, h⟩⟩
  · rintro ⟨score, hscore⟩
    obtain ⟨hmedium, hhigh⟩ := Scoring.tier_eq_medium_iff.mp hscore
    exact UInt64.lt_of_le_of_lt hmedium hhigh

namespace Scoring

/-- **Scores are exact, and nothing that is raised lowers them.**  A score is the points if they fit
in 64 bits, and fails otherwise; greater weights or counts neither lower it nor make it fit; a
higher score is in no lower tier, and higher thresholds put a score in no higher one, in order or
not; and the thresholds are in order, and the settings accepted as they are, if and only if there
is a score of the medium tier. -/
theorem exact_and_monotone :
    (∀ (s : Scoring) (lines functions classes : UInt64),
      (s.points lines.toNat functions.toNat classes.toNat < 2 ^ 64 →
        ∃ score, s.score lines functions classes = .ok score ∧
          score.toNat = s.points lines.toNat functions.toNat classes.toNat) ∧
      (2 ^ 64 ≤ s.points lines.toNat functions.toNat classes.toNat →
        ∃ overflow, s.score lines functions classes = .error overflow)) ∧
    (∀ (s s' : Scoring) (lines functions classes lines' functions' classes' : UInt64),
      s.functionWeight ≤ s'.functionWeight → s.classWeight ≤ s'.classWeight →
      lines ≤ lines' → functions ≤ functions' → classes ≤ classes' →
      ∀ score', s'.score lines' functions' classes' = .ok score' →
        ∃ score, s.score lines functions classes = .ok score ∧ score ≤ score') ∧
    (∀ (s : Scoring) (score score' : UInt64), score ≤ score' →
      (s.tier score).rank ≤ (s.tier score').rank) ∧
    (∀ (s s' : Scoring) (score : UInt64), s.mediumThreshold ≤ s'.mediumThreshold →
      s.highThreshold ≤ s'.highThreshold → (s'.tier score).rank ≤ (s.tier score).rank) ∧
    (∀ settings : Settings,
      settings.conflict? = none ↔ ∃ score, settings.scoring.tier score = .medium) ∧
    ∀ settings accepted : Settings, settings.inOrder = .ok accepted ↔
      accepted = settings ∧ ∃ score, settings.scoring.tier score = .medium := by
  refine ⟨fun s lines functions classes => ⟨fun hfits => ?_, fun hlarge => ?_⟩, ?_, ?_, ?_, ?_, ?_⟩
  · obtain ⟨score, hscore⟩ := (exists_score_iff s lines functions classes).mpr hfits
    exact ⟨score, hscore, toNat_score hscore⟩
  · exact (exists_score_eq_error_iff s lines functions classes).mpr hlarge
  · intro s s' lines functions classes lines' functions' classes' hfunctionWeight hclassWeight
      hlines hfunctions hclasses score' h
    exact exists_score_le hfunctionWeight hclassWeight hlines hfunctions hclasses h
  · intro s score score' hscore
    exact rank_tier_mono hscore (UInt64.le_refl _) (UInt64.le_refl _)
  · intro s s' score hmedium hhigh
    exact rank_tier_mono (UInt64.le_refl _) hmedium hhigh
  · exact Settings.conflict?_eq_none_iff
  · intro settings accepted
    rw [Settings.inOrder_eq_ok_iff, Settings.conflict?_eq_none_iff]

/-- The greatest score there is, one function more, and one function less; and thresholds in the
wrong order, which leave no score for the medium tier and are not accepted. -/
theorem exact_and_monotone_at_limit :
    let s : Scoring := { mediumThreshold := 50, highThreshold := 20 }
    let lines : UInt64 := 18446744073709551610
    (∃ score, s.score lines 1 0 = .ok score ∧ score.toNat = 18446744073709551615) ∧
      (∃ overflow, s.score lines 2 0 = .error overflow) ∧
      (∃ score, s.score lines 0 0 = .ok score ∧ score ≤ 18446744073709551615) ∧
      (s.tier 49).rank ≤ (s.tier 50).rank ∧
      (({ s with mediumThreshold := 60 } : Scoring).tier 55).rank ≤ (s.tier 55).rank ∧
      (¬ ∃ score, s.tier score = .medium) ∧
      ∀ accepted, ({ scoring := s } : Settings).inOrder ≠ .ok accepted := by
  intro s lines
  obtain ⟨hexact, hraised, hscore, hthresholds, horder, haccepted⟩ := exact_and_monotone
  have hnone : ¬ ∃ score, s.tier score = .medium := mt (horder { scoring := s }).mpr (by decide)
  refine ⟨?_, ?_, ?_, ?_, ?_, hnone, ?_⟩
  · exact (hexact s lines 1 0).1 (by decide)
  · exact (hexact s lines 2 0).2 (by decide)
  · exact hraised s s lines 0 0 lines 1 0 (UInt64.le_refl _) (UInt64.le_refl _) (UInt64.le_refl _)
      (by decide) (UInt64.le_refl _) 18446744073709551615 rfl
  · exact hscore s 49 50 (by decide)
  · exact hthresholds s { s with mediumThreshold := 60 } 55 (by decide) (UInt64.le_refl _)
  · exact fun accepted h => hnone ((haccepted { scoring := s } accepted).mp h).2

end Scoring
end CodeGloss
