import CodeGloss.Text.Blank
import CodeGloss.Text.Letter
import CodeGloss.Text.Word

/-! # Patterns

A **pattern** is a list of alternatives, each a sequence of pieces; it is what the library looks for
in a snippet.  A piece takes one character of a kind, or a run of them, or stands at the edge of a
word.

**Matching.** `matchLength` says how many characters the pieces take at the start of a text.  Runs
take as much as they can and give characters back only if the pieces after them fail otherwise; of
several alternatives the first that matches is taken.

**Occurrences.** `Pattern.occurrences` reads a text from left to right.  Where the pattern matches,
the characters it takes are one occurrence, and reading goes on behind them; elsewhere it goes on
with the next character.  Every occurrence therefore begins as far left as it can and shares no
character with another.
-/

namespace CodeGloss
namespace Pattern

open Text

/-- The kinds of characters that a piece can ask for. -/
inductive Kind
  /-- The given character, in either case. -/
  | letter (c : Char)
  /-- A blank character. -/
  | blank
  /-- A character of a word. -/
  | word
  /-- Any character but a line feed. -/
  | inLine
  deriving DecidableEq, Repr

/-- Whether a character is of the kind. -/
def Kind.has : Kind → Char → Bool
  | .letter c, x => sameLetter c x
  | .blank, x => isBlank x
  | .word, x => isWord x
  | .inLine, x => x != '\n'

/-- A piece of a pattern. -/
inductive Piece
  /-- One character. -/
  | one (k : Kind)
  /-- A run of any length, also of none. -/
  | any (k : Kind)
  /-- A run of at least one character. -/
  | some (k : Kind)
  /-- No character, but an edge of a word. -/
  | edge
  deriving DecidableEq, Repr

/-- A run of characters of the kind, as long as it can be for `next` to match behind it.  `before`
is the character in front of the text. -/
def runLength (k : Kind) (next : Option Char → Text → Option Nat) : Option Char → Text → Option Nat
  | before, [] => next before []
  | before, c :: rest =>
    if k.has c then
      match runLength k next (some c) rest with
      | some n => some (n + 1)
      | none => next before (c :: rest)
    else next before (c :: rest)

/-- How many characters the pieces take at the start of a text, if they match there.  `before` is
the character in front of the text. -/
def matchLength : List Piece → Option Char → Text → Option Nat
  | [], _, _ => some 0
  | .edge :: later, before, t =>
    if isEdge before t.head? then matchLength later before t else none
  | .any k :: later, before, t => runLength k (matchLength later) before t
  | .one _ :: _, _, [] => none
  | .one k :: later, _, c :: rest =>
    if k.has c then (matchLength later (some c) rest).map (· + 1) else none
  | .some _ :: _, _, [] => none
  | .some k :: later, _, c :: rest =>
    if k.has c then (runLength k (matchLength later) (some c) rest).map (· + 1) else none

/-- Pieces that take the given characters one by one. -/
def spell (s : String) : List Piece :=
  s.toList.map fun c => .one (.letter c)

/-- Blank characters that must be there. -/
def gap : Piece := .some .blank

/-- Blank characters that may be there. -/
def optionalGap : Piece := .any .blank

/-- A run of word characters. -/
def wordRun : Piece := .some .word

end Pattern

/-- A pattern: alternatives in order, each a sequence of pieces. -/
structure Pattern where
  /-- The alternatives, the preferred one first. -/
  alternatives : List (List Pattern.Piece)
  deriving DecidableEq, Repr

namespace Pattern

/-- How many characters the pattern takes at the start of a text that follows `before`. -/
def lengthAt (p : Pattern) (before : Option Char) (t : Text) : Option Nat :=
  p.alternatives.findSome? fun pieces => matchLength pieces before t

/-- The occurrences in a text that follows `before`, of which `taken` characters at the start belong
to an occurrence already found. -/
def occurrencesFrom (p : Pattern) : (taken : Nat) → (before : Option Char) → Text → List Text
  | _, _, [] => []
  | taken + 1, _, c :: rest => occurrencesFrom p taken (some c) rest
  | 0, before, c :: rest =>
    match p.lengthAt before (c :: rest) with
    | some (n + 1) => (c :: rest).take (n + 1) :: occurrencesFrom p n (some c) rest
    | _ => occurrencesFrom p 0 (some c) rest

/-- The occurrences of the pattern in a text, from left to right. -/
def occurrences (p : Pattern) (t : Text) : List Text :=
  occurrencesFrom p 0 none t

/-- The number of occurrences. -/
def count (p : Pattern) (t : Text) : Nat :=
  (p.occurrences t).length

/-- The leftmost occurrence. -/
def first? (p : Pattern) (t : Text) : Option Text :=
  (p.occurrences t).head?

/-- Whole words: each of the given words, with an edge on both sides. -/
def words (ws : List String) : Pattern :=
  ⟨ws.map fun w => .edge :: spell w ++ [.edge]⟩

/-- Definitions: one of the keywords at the edge of a word, a gap and a name. -/
def definitions (keywords : List String) : Pattern :=
  ⟨keywords.map fun w => .edge :: spell w ++ [gap, wordRun]⟩

end Pattern
end CodeGloss
