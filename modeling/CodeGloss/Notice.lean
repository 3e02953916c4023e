import CodeGloss.Palette
import CodeGloss.Text.Lines

/-! # Notices

A notice is a short message to the user beside the output proper.  Every line of the message is led
by a bracketed label, padded so that messages of all levels line up.  A framed message stands
between two lines that are drawn with one character.
-/

namespace CodeGloss

open Text

/-- A message between two lines of `width` times the character `border`. -/
def framed (message : Text) (width : Nat) (border : Char) : Text :=
  let line := List.replicate width border
  line ++ '\n' :: message ++ '\n' :: line

namespace Notice

/-- What a notice is about. -/
inductive Level
  | information
  | warning
  | failure
  | success
  deriving DecidableEq, Repr

/-- The label of a level. -/
def Level.label : Level → Text
  | information => "info".toList
  | warning => "warn".toList
  | failure => "error".toList
  | success => "done".toList

/-- The style of a label. -/
def Level.style : Level → Style
  | information => .information
  | warning => .warning
  | failure => .failure
  | success => .success

/-- The width of a label with its brackets. -/
def labelWidth : Nat := 7

/-- The label in brackets, with spaces up to the common width. -/
def lead (palette : Palette) (level : Level) : Text :=
  '[' :: palette.paint level.style level.label ++ ']' ::
    List.replicate (labelWidth - (level.label.length + 2)) ' '

/-- The lines of a notice, each with its label and its line end. -/
def render (palette : Palette) (level : Level) (message : Text) : Text :=
  (lines message).flatMap fun line => lead palette level ++ ' ' :: line ++ ['\n']

end Notice
end CodeGloss
