import CodeGloss.Language.Basic
import CodeGloss.Pattern.Basic

/-! # Evidence of a language

Every language that can be guessed has **clues**, patterns that are typical of it.  The evidence
that a snippet gives of a language is the number of occurrences of its clues, summed.  The language
with the most evidence is guessed; with equal evidence the one listed first, and with none at all,
`unknown`.

Some clues are shared, so a snippet can give equal evidence of two languages.
-/

namespace CodeGloss
namespace Language

open Pattern

/-- The clues of a language. -/
def clues : Language → List (List Piece)
  | python => [
      spell "def" ++ [gap, wordRun, optionalGap] ++ spell "(",
      spell "import" ++ [gap, wordRun],
      spell "print" ++ [optionalGap] ++ spell "(",
      spell "if" ++ [gap] ++ spell "__name__"]
  | javascript => [
      spell "function" ++ [gap, wordRun, optionalGap] ++ spell "(",
      spell "console.log",
      spell "const" ++ [gap, wordRun],
      spell "=>"]
  | java => [
      spell "public" ++ [gap] ++ spell "class",
      spell "System.out",
      spell "public" ++ [gap] ++ spell "static" ++ [gap] ++ spell "void"]
  | cpp => [
      spell "#include" ++ [optionalGap] ++ spell "<",
      spell "std::",
      spell "cout" ++ [optionalGap] ++ spell "<<",
      spell "int" ++ [gap] ++ spell "main"]
  | c => [
      spell "#include" ++ [optionalGap] ++ spell "<" ++ [.any .inLine] ++ spell ".h>",
      spell "printf" ++ [optionalGap] ++ spell "(",
      spell "int" ++ [gap] ++ spell "main"]
  | csharp => [
      spell "using" ++ [gap] ++ spell "System",
      spell "Console.WriteLine",
      spell "public" ++ [gap] ++ spell "class"]
  | php => [
      spell "<?php",
      spell "$" ++ [wordRun],
      spell "echo" ++ [gap]]
  | sql => [
      spell "SELECT" ++ [gap],
      spell "FROM" ++ [gap],
      spell "WHERE" ++ [gap]]
  | unknown => []

/-- How often each clue of the language occurs in the snippet. -/
def occurrenceCounts (l : Language) (code : Text) : List Nat :=
  l.clues.map fun pieces => Pattern.count ⟨[pieces]⟩ code

/-- The evidence that the snippet gives of the language. -/
def evidence (l : Language) (code : Text) : Nat :=
  (l.occurrenceCounts code).foldr (· + ·) 0

/-- The better of the language found so far and the next one; the next one needs more evidence to
win. -/
def better (code : Text) (found next : Language) : Language :=
  if found.evidence code < next.evidence code then next else found

/-- The language that the snippet gives most evidence of. -/
def guess (code : Text) : Language :=
  guessable.foldl (better code) unknown

end Language
end CodeGloss
