import CodeGloss.Pattern.Basic
import CodeGloss.Scoring
import CodeGloss.Text.Lines

/-! # Measures

The measures of a snippet are tallies over its text: lines that are not blank, definitions of
functions and classes, loops and conditionals.  The text is not parsed, so words in comments and
strings count too.  From the tallies and a scoring the measures derive a score and its tier.
-/

namespace CodeGloss

/-- What is known of a snippet in numbers. -/
structure Measures where
  /-- Lines that are not blank. -/
  lines : UInt64
  /-- Definitions of functions. -/
  functions : UInt64
  /-- Definitions of classes. -/
  classes : UInt64
  /-- Loops. -/
  loops : UInt64
  /-- Conditionals. -/
  conditionals : UInt64
  /-- The score. -/
  score : UInt64
  /-- The tier of the score. -/
  tier : Tier
  deriving DecidableEq, Repr

namespace Measures

/-- Definitions of functions. -/
def functionPattern : Pattern :=
  .definitions ["def", "function"]

/-- Definitions of classes. -/
def classPattern : Pattern :=
  .definitions ["class"]

/-- The words that begin a loop. -/
def loopPattern : Pattern :=
  .words ["for", "while"]

/-- The word that begins a conditional. -/
def conditionalPattern : Pattern :=
  .words ["if"]

/-- The measures of a snippet, unless its score does not fit in 64 bits. -/
def ofCode (scoring : Scoring) (code : Text) : Except Overflow Measures := do
  let lines := (Text.filledLineCount code).toUInt64
  let functions := (functionPattern.count code).toUInt64
  let classes := (classPattern.count code).toUInt64
  let score ← scoring.score lines functions classes
  return {
    lines, functions, classes
    loops := (loopPattern.count code).toUInt64
    conditionals := (conditionalPattern.count code).toUInt64
    score
    tier := scoring.tier score }

end Measures
end CodeGloss
