import CodeGloss.Text.Blank

/-! # Lines

Two notions of line.  The *pieces* of a text lie between its line feeds, and joining them gives the
text back; comments are put between pieces.  The *lines* of a text are what a reader counts: a final
line feed starts no line, and a carriage return before a line feed belongs to the line end.
-/

namespace CodeGloss
namespace Text

/-- The pieces between line feeds. -/
def pieces (t : Text) : List Text :=
  split '\n' t

/-- The pieces with line feeds between them. -/
def ofPieces (ps : List Text) : Text :=
  join '\n' ps

theorem ofPieces_pieces (t : Text) : ofPieces (pieces t) = t :=
  join_split '\n' t

/-- The line without the carriage return it ends with, if it does. -/
def dropReturn (line : Text) : Text :=
  if line.getLast? = some '\r' then line.dropLast else line

/-- The lines of a text, without their ends. -/
def lines (t : Text) : List Text :=
  let ps := pieces t
  let final := ps.getLast?.getD []
  ps.dropLast.map dropReturn ++ if final.isEmpty then [] else [final]

/-- The number of lines that are not blank. -/
def filledLineCount (t : Text) : Nat :=
  (lines t).countP fun line => !allBlank line

end Text
end CodeGloss
