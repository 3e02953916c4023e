import CodeGloss.Language.Basic
import CodeGloss.LineKind
import CodeGloss.Text.Lines

/-! # Glosses

A gloss is a comment above a line that remarks on the line.  Glossing a snippet puts one above every
line that is understood; blank lines and lines that are comments already get none.  No line of the
snippet is changed, and none is lost: `unglossed` takes the glosses out again.
-/

namespace CodeGloss
namespace Gloss

open Text

/-- How glosses are put in. -/
structure Options where
  /-- Whether a gloss is indented as the line below it. -/
  indented : Bool := false
  deriving DecidableEq, Repr

/-- Whether the line is a comment that begins with the marker. -/
def isComment (marker line : Text) : Bool :=
  marker.isPrefixOf (trim line)

/-- What is remarked on a line: nothing on a blank line or a comment. -/
def remark? (language : Language) (line : Text) : Option Text :=
  if allBlank line || isComment language.marker line then none else remarkOn? line

/-- The blanks in front of a gloss. -/
def margin (options : Options) (line : Text) : Text :=
  if options.indented then leadingBlanks line else []

/-- The gloss that goes above a line, if there is something to remark on the line. -/
def above? (language : Language) (options : Options) (line : Text) : Option Text :=
  (remark? language line).map fun remark => margin options line ++ language.marker ++ ' ' :: remark

/-- A line with its gloss above it. -/
def glossLine (language : Language) (options : Options) (line : Text) : List Text :=
  (above? language options line).toList ++ [line]

/-- The snippet with a gloss above every line that is understood. -/
def glossed (language : Language) (options : Options) (code : Text) : Text :=
  ofPieces ((pieces code).flatMap (glossLine language options))

/-- Takes the glosses out of lines that are given from the last to the first: above each line that
has something to remark on, one line is dropped. -/
def dropGlosses (language : Language) : List Text → List Text
  | [] => []
  | line :: above =>
    line :: if (remark? language line).isSome then
      match above with
      | [] => []
      | _ :: further => dropGlosses language further
    else dropGlosses language above

/-- The snippet that a glossed snippet was made of. -/
def unglossed (language : Language) (t : Text) : Text :=
  ofPieces (dropGlosses language (pieces t).reverse).reverse

end Gloss
end CodeGloss
