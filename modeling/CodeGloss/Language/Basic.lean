import CodeGloss.Text.Basic

/-! # Languages

The languages that the library can tell apart, what they are called, and how a comment begins in
each.
-/

namespace CodeGloss

/-- The languages of snippets; `unknown` stands for any other. -/
inductive Language
  | python
  | javascript
  | java
  | cpp
  | c
  | csharp
  | php
  | sql
  | unknown
  deriving DecidableEq, Repr

namespace Language

/-- What a language is called. -/
def name : Language → Text
  | python => "python".toList
  | javascript => "javascript".toList
  | java => "java".toList
  | cpp => "cpp".toList
  | c => "c".toList
  | csharp => "csharp".toList
  | php => "php".toList
  | sql => "sql".toList
  | unknown => "unknown".toList

/-- All languages, in the order in which they are listed to readers. -/
def all : List Language :=
  [python, javascript, java, cpp, c, csharp, php, sql, unknown]

/-- The languages that can be guessed, in the order in which they are preferred. -/
def guessable : List Language :=
  [python, javascript, java, cpp, c, csharp, php, sql]

/-- What a comment to the end of the line begins with. -/
def marker : Language → Text
  | python | unknown => "#".toList
  | sql => "--".toList
  | javascript | java | cpp | c | csharp | php => "//".toList

/-- Every language is listed. -/
theorem mem_all (l : Language) : l ∈ all := by
  cases l <;> decide

/-- The guessable languages are all but `unknown`. -/
theorem mem_guessable_iff {l : Language} : l ∈ guessable ↔ l ≠ unknown := by
  cases l <;> decide

/-- No two languages share a name. -/
theorem name_injective {l m : Language} (h : l.name = m.name) : l = m := by
  revert h
  cases l <;> cases m <;> decide

end Language
end CodeGloss
