import CodeGloss.Gloss
import CodeGloss.Scoring

/-! # Settings

What a user can set: the scoring and the way glosses are put in.  Settings are in order if the
medium threshold lies below the high one, so that there are scores of the medium tier.
-/

namespace CodeGloss

/-- What a user can set. -/
structure Settings where
  /-- Weights and thresholds of the score. -/
  scoring : Scoring := {}
  /-- How glosses are put in. -/
  gloss : Gloss.Options := {}
  deriving DecidableEq, Repr

/-- Thresholds that leave no score for the medium tier. -/
structure ThresholdConflict where
  /-- The medium threshold. -/
  medium : UInt64
  /-- The high threshold, which is not above it. -/
  high : UInt64
  deriving DecidableEq, Repr

namespace Settings

/-- The thresholds of settings that are not in order. -/
def conflict? (s : Settings) : Option ThresholdConflict :=
  if s.scoring.mediumThreshold < s.scoring.highThreshold then none
  else some ⟨s.scoring.mediumThreshold, s.scoring.highThreshold⟩

end Settings
end CodeGloss
