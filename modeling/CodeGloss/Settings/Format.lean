import CodeGloss.Json.Record
import CodeGloss.Settings

/-! # The written form of settings

Settings are written as a record of two records.  Every field may be absent and has the default of
the settings.
-/

namespace CodeGloss

open Json

/-- The codec of scorings. -/
def Scoring.codec : Codec Scoring :=
  let standard : Scoring := {}
  .record "ScoringConfig"
    (.cons "function_weight".toList .count (some standard.functionWeight) <|
     .cons "class_weight".toList .count (some standard.classWeight) <|
     .cons "medium_threshold".toList .count (some standard.mediumThreshold) <|
     .cons "high_threshold".toList .count (some standard.highThreshold) .nil)
    (fun (functionWeight, classWeight, mediumThreshold, highThreshold, ()) =>
      { functionWeight, classWeight, mediumThreshold, highThreshold })
    (fun s => (s.functionWeight, s.classWeight, s.mediumThreshold, s.highThreshold, ()))

/-- The codec of the options of glosses. -/
def Gloss.Options.codec : Codec Gloss.Options :=
  let standard : Gloss.Options := {}
  .record "AnnotationConfig"
    (.cons "match_indentation".toList .flag (some standard.indented) .nil)
    (fun (indented, ()) => { indented })
    (fun o => (o.indented, ()))

/-- The codec of settings. -/
def Settings.codec : Codec Settings :=
  .record "HumanizerConfig"
    (.cons "scoring".toList Scoring.codec (some {}) <|
     .cons "annotation".toList Gloss.Options.codec (some {}) .nil)
    (fun (scoring, gloss, ()) => { scoring, gloss })
    (fun s => (s.scoring, s.gloss, ()))

end CodeGloss
