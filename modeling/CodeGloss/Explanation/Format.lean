import CodeGloss.Explanation.Basic
import CodeGloss.Json.Record

/-! # The written form of explanations

An explanation is written as a record; its language and its tier are written as their names.  No
field may be absent.
-/

namespace CodeGloss

open Json

/-- The codec of languages. -/
def Language.codec : Codec Language :=
  .choice Language.name Language.all

/-- The codec of tiers. -/
def Tier.codec : Codec Tier :=
  .choice Tier.name Tier.all

/-- The codec of measures. -/
def Measures.codec : Codec Measures :=
  .record "Metrics"
    (.cons "lines".toList .count none <|
     .cons "functions".toList .count none <|
     .cons "classes".toList .count none <|
     .cons "loops".toList .count none <|
     .cons "conditionals".toList .count none <|
     .cons "complexity_score".toList .count none <|
     .cons "complexity_tier".toList Tier.codec none .nil)
    (fun (lines, functions, classes, loops, conditionals, score, tier, ()) =>
      { lines, functions, classes, loops, conditionals, score, tier })
    (fun m => (m.lines, m.functions, m.classes, m.loops, m.conditionals, m.score, m.tier, ()))

/-- The codec of explanations. -/
def Explanation.codec : Codec Explanation :=
  .record "HumanizeResult"
    (.cons "original_code".toList .text none <|
     .cons "annotated_code".toList .text none <|
     .cons "detected_language".toList Language.codec none <|
     .cons "summary_text".toList .text none <|
     .cons "metrics".toList Measures.codec none .nil)
    (fun (code, glossed, language, summary, measures, ()) =>
      { code, glossed, language, summary, measures })
    (fun e => (e.code, e.glossed, e.language, e.summary, e.measures, ()))

end CodeGloss
