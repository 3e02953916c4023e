import CodeGloss.Text.Basic
import CodeGloss.Text.CharSet

/-! # Blank characters

The blank characters are those with the Unicode property *White_Space*.  They are trimmed from the
ends of a text, they indent a line, and a line of nothing else is a blank line.
-/

namespace CodeGloss
namespace Text

/-- The blank characters: tab to carriage return, the space, and the spaces and separators beyond
ASCII. -/
def blanks : CharSet := ⟨[
  (0x9, 0xD), (0x20, 0x20), (0x85, 0x85), (0xA0, 0xA0), (0x1680, 0x1680), (0x2000, 0x200A),
  (0x2028, 0x2029), (0x202F, 0x202F), (0x205F, 0x205F), (0x3000, 0x3000)]⟩

/-- Whether the character is blank. -/
def isBlank (c : Char) : Bool :=
  blanks.contains c

/-- The blank characters at the start of a text. -/
def leadingBlanks (t : Text) : Text :=
  t.takeWhile isBlank

/-- The text from its first character that is not blank. -/
def trimStart (t : Text) : Text :=
  t.dropWhile isBlank

/-- The text up to its last character that is not `p`. -/
def dropEndWhile (p : Char → Bool) (t : Text) : Text :=
  (t.reverse.dropWhile p).reverse

/-- The text up to its last character that is not blank. -/
def trimEnd (t : Text) : Text :=
  dropEndWhile isBlank t

/-- The text from its first to its last character that is not blank. -/
def trim (t : Text) : Text :=
  trimEnd (trimStart t)

/-- Whether the text has no character that is not blank. -/
def allBlank (t : Text) : Bool :=
  (trim t).isEmpty

theorem leadingBlanks_append_trimStart (t : Text) : leadingBlanks t ++ trimStart t = t :=
  List.takeWhile_append_dropWhile

end Text
end CodeGloss
