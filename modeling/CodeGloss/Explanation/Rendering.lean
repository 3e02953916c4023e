import CodeGloss.Explanation.Basic
import CodeGloss.Palette

/-! # Explanations on a terminal

An explanation is shown as the glossed snippet and the summary, each under a heading; step by step,
the snippet is shown first.  In the summary the tier is painted.  Line feeds at the end of a snippet
are not shown.
-/

namespace CodeGloss
namespace Explanation

open Text

/-- The words that announce a tier. -/
def announcement (tier : Text) : Text :=
  "Complexity: ".toList ++ tier ++ " ".toList

/-- The summary, with the first announcement of the tier painted. -/
def paintedSummary (palette : Palette) (e : Explanation) : Text :=
  replaceFirst (announcement e.measures.tier.name) (announcement (palette.tierName e.measures.tier))
    e.summary

/-- The snippet without the line feeds it ends with. -/
def body (code : Text) : Text :=
  dropEndWhile (· == '\n') code

/-- A heading and what stands under it. -/
def part (palette : Palette) (title : String) (content : Text) : Text :=
  palette.heading title.toList ++ '\n' :: content

/-- The glossed snippet and the summary. -/
def render (palette : Palette) (e : Explanation) : Text :=
  part palette "Humanized Code" (body e.glossed) ++ "\n\n".toList ++
  part palette "Explanation" (paintedSummary palette e)

/-- The snippet, the glossed snippet and the summary. -/
def renderStepByStep (palette : Palette) (e : Explanation) : Text :=
  part palette "Original" (body e.code) ++ "\n\n".toList ++
  part palette "With comments" (body e.glossed) ++ "\n\n".toList ++
  part palette "Explanation" (paintedSummary palette e)

end Explanation
end CodeGloss
