import CodeGloss.Language.Evidence
import CodeGloss.Measures
import CodeGloss.Settings
import CodeGloss.Text.Decimal

/-! # Explanations

An explanation is all that the library says about a snippet: its language, the glossed snippet, the
measures, and a summary of language and measures in plain words.
-/

namespace CodeGloss

open Text

/-- A tally that a summary mentions. -/
structure Tally where
  /-- What the snippet does with the things counted. -/
  verb : Text
  /-- How many there are. -/
  count : UInt64
  /-- What one of them is called. -/
  singular : Text
  /-- What several of them are called. -/
  plural : Text
  deriving DecidableEq, Repr

namespace Tally

/-- A line of its own for a tally, if there is anything to count. -/
def line? (t : Tally) : Option Text :=
  if t.count = 0 then none
  else some ("- ".toList ++ t.verb ++ ' ' :: decimal64 t.count ++
    ' ' :: (if t.count = 1 then t.singular else t.plural))

end Tally

namespace Measures

/-- The tallies that a summary mentions. -/
def tallies (m : Measures) : List Tally := [
  ⟨"Has".toList, m.functions, "function".toList, "functions".toList⟩,
  ⟨"Contains".toList, m.classes, "class".toList, "classes".toList⟩,
  ⟨"Uses".toList, m.loops, "loop".toList, "loops".toList⟩,
  ⟨"Uses".toList, m.conditionals, "conditional".toList, "conditionals".toList⟩]

/-- The lines of a summary: the language, the size and complexity, and the tallies that are not
zero. -/
def summaryLines (language : Language) (m : Measures) : List Text :=
  ("Language guessed: ".toList ++ language.name) ::
  ("Lines of code: ".toList ++ decimal64 m.lines ++ "  |  Complexity: ".toList ++ m.tier.name ++
    " (".toList ++ decimal64 m.score ++ " pts)".toList) ::
  m.tallies.filterMap Tally.line?

/-- A language and measures in plain words. -/
def inPlainWords (language : Language) (m : Measures) : Text :=
  ofPieces (summaryLines language m)

end Measures

/-- What is said about a snippet. -/
structure Explanation where
  /-- The snippet. -/
  code : Text
  /-- The glossed snippet. -/
  glossed : Text
  /-- The language that is guessed. -/
  language : Language
  /-- The language and the measures in plain words. -/
  summary : Text
  /-- The measures of the snippet. -/
  measures : Measures
  deriving DecidableEq, Repr

/-- The explanation of a snippet, unless its score does not fit in 64 bits. -/
def Explanation.ofCode (settings : Settings) (code : Text) : Except Overflow Explanation := do
  let language := Language.guess code
  let measures ← Measures.ofCode settings.scoring code
  return {
    code
    glossed := Gloss.glossed language settings.gloss code
    language
    summary := Measures.inPlainWords language measures
    measures }

end CodeGloss
