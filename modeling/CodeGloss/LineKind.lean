import CodeGloss.Pattern.Basic
import CodeGloss.Phrase

/-! # Kinds of lines

A line of a snippet is of the first kind that recognises it, and each kind has a remark to make
about its lines.  The order of the kinds matters: a definition is one even if the line also assigns
a value, and an assignment is one even if the line also prints.

A kind looks at the line as it is given; `remarkOn?` trims the line first.
-/

namespace CodeGloss

/-- The kinds of lines that are understood. -/
inductive LineKind
  /-- The definition of a function. -/
  | newFunction
  /-- The definition of a class. -/
  | newClass
  /-- The assignment of a value. -/
  | assignment
  /-- A loop over the elements of something. -/
  | forEach
  /-- A loop that runs while a condition holds. -/
  | repeatWhile
  /-- A condition. -/
  | condition
  /-- A condition that is looked at if those before it do not hold. -/
  | otherwiseIf
  /-- What is done if no condition holds. -/
  | otherwise
  /-- The result of a function. -/
  | result
  /-- Output to the user. -/
  | output
  /-- The use of another module. -/
  | inclusion
  deriving DecidableEq, Repr

namespace LineKind

open Text

/-- The kinds in the order in which they are tried. -/
def all : List LineKind :=
  [newFunction, newClass, assignment, forEach, repeatWhile, condition, otherwiseIf, otherwise,
    result, output, inclusion]

/-- What a kind is called. -/
def name : LineKind → Text
  | newFunction => "function".toList
  | newClass => "class".toList
  | assignment => "assignment".toList
  | forEach => "for-each".toList
  | repeatWhile => "while".toList
  | condition => "if".toList
  | otherwiseIf => "else-if".toList
  | otherwise => "else".toList
  | result => "return".toList
  | output => "output".toList
  | inclusion => "import".toList

/-- How the definition of a function begins. -/
def functionHead : Pattern :=
  .definitions ["def", "function", "func"]

/-- How the definition of a class begins. -/
def classHead : Pattern :=
  .definitions ["class"]

/-- The name that is defined at the leftmost occurrence of a head: the word that the occurrence ends
with. -/
def definedName? (head : Pattern) (line : Text) : Option Text :=
  (head.first? line).map lastWord

/-- The characters that make an assignment a calculation. -/
def operators : Text :=
  "+-*/%".toList

/-- What an assignment does. -/
def effectOfAssignment (line : Text) : Text :=
  if occurs "input(".toList line then "Take input from the user".toList
  else if line.any operators.contains then "Do some math and save it".toList
  else "Assign a value to a variable".toList

/-- The remark, if the line is recognised. -/
def remarkIf (recognised : Bool) (remark : String) : Option Text :=
  if recognised then some remark.toList else none

/-- The remark that a kind makes about a line, if it recognises the line. -/
def remark? : LineKind → Text → Option Text
  | newFunction, line =>
    (definedName? functionHead line).map fun name =>
      "Define function: ".toList ++ Phrase.ofName name
  | newClass, line =>
    (definedName? classHead line).map fun name => "Define a new class named ".toList ++ name
  | assignment, line =>
    if line.contains '=' && !occurs "==".toList line then some (effectOfAssignment line) else none
  | forEach, line =>
    remarkIf (occurs "for ".toList line && occurs " in ".toList line) "Loop through stuff"
  | repeatWhile, line =>
    remarkIf ("while".toList.isPrefixOf line) "Repeat while condition holds true"
  | condition, line =>
    remarkIf ("if".toList.isPrefixOf line) "Check condition"
  | otherwiseIf, line =>
    remarkIf ("elif".toList.isPrefixOf line || occurs "else if".toList line) "Alternative condition"
  | otherwise, line =>
    remarkIf ("else".toList.isPrefixOf line) "Fallback if nothing else matched"
  | result, line =>
    remarkIf ("return".toList.isPrefixOf line) "Give back the result"
  | output, line =>
    remarkIf (occurs "print".toList line || occurs "console.log".toList line)
      "Show something on screen"
  | inclusion, line =>
    remarkIf (occurs "import ".toList line || occurs "#include".toList line)
      "Bring in external library/module"

/-- Every kind is tried. -/
theorem mem_all (k : LineKind) : k ∈ all := by
  cases k <;> decide

end LineKind

/-- The remark about a line, if the line is of some kind. -/
def remarkOn? (line : Text) : Option Text :=
  LineKind.all.findSome? fun kind => kind.remark? (Text.trim line)

end CodeGloss
