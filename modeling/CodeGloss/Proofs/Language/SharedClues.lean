import CodeGloss.Proofs.Language.Guess

/-! # Languages with shared clues

C shares its clues with C++, but for `printf`: a `main` function is a clue of both, and what is found
of an included header is found of an include as well (`count_headerClue_le`).  C# shares the public
class with Java.  C++ and Java are preferred, so what is shared never decides for C or C#: their own
clues must outnumber those of the preferred language (`ownClues_of_guess`).
-/
namespace CodeGloss
namespace Language

open Pattern

/-! ## Clues by name -/

/-- An include: what it names stands in angle brackets. -/
def includeClue : List Piece :=
  spell "#include" ++ [optionalGap] ++ spell "<"

/-- An include of a header, on one line. -/
def headerClue : List Piece :=
  includeClue ++ [.any .inLine] ++ spell ".h>"

/-- A name of the standard library of C++. -/
def stdClue : List Piece :=
  spell "std::"

/-- Output to the stream of C++. -/
def coutClue : List Piece :=
  spell "cout" ++ [optionalGap] ++ spell "<<"

/-- Formatted output of C. -/
def printfClue : List Piece :=
  spell "printf" ++ [optionalGap] ++ spell "("

/-- A `main` function. -/
def mainClue : List Piece :=
  spell "int" ++ [gap] ++ spell "main"

/-- A public class. -/
def publicClassClue : List Piece :=
  spell "public" ++ [gap] ++ spell "class"

/-- Output of Java. -/
def systemOutClue : List Piece :=
  spell "System.out"

/-- A public method of a class that gives nothing back. -/
def publicMethodClue : List Piece :=
  spell "public" ++ [gap] ++ spell "static" ++ [gap] ++ spell "void"

/-- The use of the standard library of C#. -/
def usingClue : List Piece :=
  spell "using" ++ [gap] ++ spell "System"

/-- Output of C#. -/
def writeLineClue : List Piece :=
  spell "Console.WriteLine"

theorem clues_cpp : cpp.clues = [includeClue, stdClue, coutClue, mainClue] :=
  rfl

theorem clues_c : c.clues = [headerClue, printfClue, mainClue] :=
  rfl

theorem clues_java : java.clues = [publicClassClue, systemOutClue, publicMethodClue] :=
  rfl

theorem clues_csharp : csharp.clues = [usingClue, writeLineClue, publicClassClue] :=
  rfl

variable {code : Text}

/-! ## Headers and includes -/

/-- **Headers are includes.**  Several includes on a line can be one occurrence of a header, but
there are never more headers than includes. -/
theorem count_headerClue_le (code : Text) :
    Pattern.count ⟨[headerClue]⟩ code ≤ Pattern.count ⟨[includeClue]⟩ code :=
  calc Pattern.count ⟨[headerClue]⟩ code
      ≤ Pattern.places ⟨[headerClue]⟩ code := count_le_places _ code
    _ ≤ Pattern.places ⟨[includeClue]⟩ code := by
        rw [headerClue, List.append_assoc]
        exact places_append_le includeClue _ code
    _ = Pattern.count ⟨[includeClue]⟩ code := (count_eq_places (by decide) code).symm

/-! ## The languages that are guessed -/

/-- A language that is guessed has more evidence than every language preferred to it. -/
theorem evidence_lt_of_guess {l m : Language} {preferred others : List Language}
    (horder : guessable = preferred ++ l :: others) (hl : l ∉ unknown :: preferred)
    (hguess : guess code = l) (hm : m ∈ preferred) : m.evidence code < l.evidence code := by
  obtain ⟨hknown, hpreferred⟩ := not_or.mp (List.mem_cons.not.mp hl)
  have hleads := ((guess_eq_iff hknown).mp hguess).2
  rw [horder] at hleads
  exact hleads.evidence_lt hpreferred hm

/-- **What is shared does not decide.**  There are no more headers than includes; so if C is guessed,
formatted output outnumbers the clues that only C++ has, and if C# is guessed, its own clues
outnumber those that only Java has. -/
theorem ownClues_of_guess (code : Text) :
    Pattern.count ⟨[headerClue]⟩ code ≤ Pattern.count ⟨[includeClue]⟩ code ∧
      (guess code = c →
        Pattern.count ⟨[stdClue]⟩ code + Pattern.count ⟨[coutClue]⟩ code <
            Pattern.count ⟨[printfClue]⟩ code ∧
          0 < Pattern.count ⟨[printfClue]⟩ code) ∧
      (guess code = csharp →
        Pattern.count ⟨[systemOutClue]⟩ code + Pattern.count ⟨[publicMethodClue]⟩ code <
          Pattern.count ⟨[usingClue]⟩ code + Pattern.count ⟨[writeLineClue]⟩ code) := by
  have hheaders := count_headerClue_le code
  refine ⟨hheaders, fun hguess => ?_, fun hguess => ?_⟩
  · have horder : guessable = [python, javascript, java, cpp] ++ c :: [csharp, php, sql] := rfl
    have hless : cpp.evidence code < c.evidence code :=
      evidence_lt_of_guess horder (by decide) hguess (by decide)
    simp only [evidence, occurrenceCounts, clues_cpp, clues_c, List.map_cons, List.map_nil,
      List.foldr_cons, List.foldr_nil] at hless
    omega
  · have horder : guessable = [python, javascript, java, cpp, c] ++ csharp :: [php, sql] := rfl
    have hless : java.evidence code < csharp.evidence code :=
      evidence_lt_of_guess horder (by decide) hguess (by decide)
    simp only [evidence, occurrenceCounts, clues_java, clues_csharp, List.map_cons, List.map_nil,
      List.foldr_cons, List.foldr_nil] at hless
    omega

/-- A program of each language with all the clues that it shares. -/
theorem ownClues_of_guess_programs :
    let program : Text := "#include <a.h>\nint main() \x7b printf(\"std::\"); printf(x);".toList
    let program' : Text := "using System;\npublic class A \x7b Console.WriteLine(System.Out)".toList
    (guess program = c ∧ Pattern.count ⟨[stdClue]⟩ program = 1 ∧
        1 < Pattern.count ⟨[printfClue]⟩ program) ∧
      guess program' = csharp ∧ Pattern.count ⟨[systemOutClue]⟩ program' = 1 ∧
        1 < Pattern.count ⟨[usingClue]⟩ program' + Pattern.count ⟨[writeLineClue]⟩ program' := by
  intro program program'
  have hguess : guess program = c := by decide +kernel
  have hguess' : guess program' = csharp := by decide +kernel
  have hstd : Pattern.count ⟨[stdClue]⟩ program = 1 := by decide +kernel
  have hout : Pattern.count ⟨[systemOutClue]⟩ program' = 1 := by decide +kernel
  have hprintf := ((ownClues_of_guess program).2.1 hguess).1
  have hown := (ownClues_of_guess program').2.2 hguess'
  exact ⟨⟨hguess, hstd, by omega⟩, hguess', hout, by omega⟩

end Language
end CodeGloss
