import CodeGloss.Text.Basic
import CodeGloss.Text.Word.Table

/-! # Words

A word is a run of word characters that is as long as it can be.  The edges of words are the places
where a word character stands on one side only; the ends of the text count as characters that are
not in a word.
-/

namespace CodeGloss
namespace Text

/-- Whether the character belongs to a word. -/
def isWord (c : Char) : Bool :=
  wordCharacters.contains c

/-- Whether there is a character and it belongs to a word. -/
def isWord? (c : Option Char) : Bool :=
  c.any isWord

/-- Whether the place between two neighbours is the edge of a word. -/
def isEdge (before after : Option Char) : Bool :=
  isWord? before != isWord? after

/-- The word characters a text ends with. -/
def lastWord (t : Text) : Text :=
  (t.reverse.takeWhile isWord).reverse

end Text
end CodeGloss
