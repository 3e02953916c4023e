import CodeGloss.Proofs.Gloss.Names

/-! # The evidence that glosses give

The fixed words of glosses are no evidence of a language, but for one word of the remark on input,
which is a clue of SQL (`evidence_glossed`).  So a snippet can be taken for SQL when it has been
glossed, though nothing in it is SQL (`guess_glossed_ne`): the words of the glosses are read as the
snippet is.

Beside that, glosses give evidence only with the names they repeat, and they part what clues find over
line ends.  Both show in the snippet under names alone.  The guess from the glossed snippet is the
guess from that one, unless SQL wins by the remarks on input (`guess_glossed`).
-/
namespace CodeGloss
namespace Language

open Pattern Gloss LineKind Text

variable {code code' : Text} {found : Language} {n : Nat}

/-! ## More evidence of the last language -/

theorem foldl_better_congr {ls : List Language}
    (h : ∀ l ∈ found :: ls, l.evidence code' = l.evidence code) :
    ls.foldl (better code') found = ls.foldl (better code) found := by
  induction ls generalizing found with
  | nil => rfl
  | cons next later ih =>
    have hfound := h found List.mem_cons_self
    have hnext := h next (List.mem_cons_of_mem _ List.mem_cons_self)
    have hbetter : better code' found next = better code found next := by
      rw [better, hfound, hnext, better]
    rw [List.foldl_cons, List.foldl_cons, hbetter]
    refine ih fun l hl => ?_
    rcases List.mem_cons.mp hl with rfl | hl
    · rw [better]
      split
      · exact hnext
      · exact hfound
    · exact h l (List.mem_cons_of_mem _ (List.mem_cons_of_mem _ hl))

theorem foldl_better_mem (code : Text) (found : Language) (ls : List Language) :
    ls.foldl (better code) found ∈ found :: ls := by
  induction ls generalizing found with
  | nil => exact List.mem_cons_self
  | cons next later ih =>
    rw [List.foldl_cons]
    rcases List.mem_cons.mp (ih (better code found next)) with hbest | hbest
    · rw [hbest, better]
      split
      · exact List.mem_cons_of_mem _ List.mem_cons_self
      · exact List.mem_cons_self
    · exact List.mem_cons_of_mem _ (List.mem_cons_of_mem _ hbest)

/-- The languages that are preferred to SQL. -/
def beforeSql : List Language :=
  [python, javascript, java, cpp, c, csharp, php]

/-- SQL is tried last. -/
theorem guess_eq_better (code : Text) :
    guess code = better code (beforeSql.foldl (better code) unknown) sql :=
  rfl

/-- **More evidence of SQL alone** changes the guess to SQL or not at all. -/
theorem guess_of_evidence
    (h : ∀ l, l.evidence code' = l.evidence code + if l = sql then n else 0) :
    guess code' =
      if (guess code).evidence code < sql.evidence code + n then sql else guess code := by
  have hothers : ∀ l ∈ unknown :: beforeSql, l ≠ sql := by decide
  have hsame : beforeSql.foldl (better code') unknown = beforeSql.foldl (better code) unknown := by
    refine foldl_better_congr fun l hl => ?_
    rw [h, if_neg (hothers l hl), Nat.add_zero]
  have hbest := hothers _ (foldl_better_mem code unknown beforeSql)
  -- the best of the others is the same in both snippets, so only the last comparison differs
  rw [guess_eq_better code', hsame, guess_eq_better code]
  generalize beforeSql.foldl (better code) unknown = best at hbest
  rw [better, h best, h sql, if_neg hbest, if_pos rfl, Nat.add_zero, better]
  by_cases hless : best.evidence code < sql.evidence code
  · -- SQL has won already
    have hmore : best.evidence code < sql.evidence code + n := by omega
    rw [if_pos hless, if_pos hmore, ite_self]
  · rw [if_neg hless]

/-! ## Glossed snippets -/

theorem count_fromClue (l : Language) : l.clues.count fromClue = if l = sql then 1 else 0 := by
  cases l <;> decide

/-- **The fixed words of glosses are no evidence**, but for one word of the remark on input. -/
theorem evidence_glossed (language : Language) (options : Options) (code : Text) (l : Language) :
    l.evidence (glossed language options code) = l.evidence (namesOnly language options code) +
      if l = sql then inputLineCount language (pieces code) else 0 := by
  have hsum (clues : List (List Piece)) (hclues : clues ⊆ l.clues) :
      (clues.map fun clue => Pattern.count ⟨[clue]⟩ (glossed language options code)).foldr (· + ·) 0 =
        (clues.map fun clue => Pattern.count ⟨[clue]⟩ (namesOnly language options code)).foldr
          (· + ·) 0 + clues.count fromClue * inputLineCount language (pieces code) := by
    induction clues with
    | nil => simp
    | cons clue later ih =>
      obtain ⟨hclue, hlater⟩ := List.cons_subset.mp hclues
      rw [List.map_cons, List.map_cons, List.foldr_cons, List.foldr_cons, ih hlater,
        count_glossed hclue, List.count_cons]
      by_cases hfrom : clue = fromClue
      · simp only [hfrom, beq_self_eq_true, if_true, Nat.add_mul, Nat.one_mul]
        omega
      · simp [hfrom, Nat.add_assoc]
  rw [evidence, occurrenceCounts, hsum l.clues (List.Subset.refl _), count_fromClue, evidence,
    occurrenceCounts]
  split <;> simp

/-- **When a glossed snippet is taken for the language of the snippet.**  The evidence that it gives is
that of the snippet under names alone, and of SQL one more for each remark on input.  So a language
other than SQL is kept if and only if it is the guess under names alone and SQL does not win by those
remarks; and SQL is kept if and only if it is that guess or wins by them. -/
theorem guess_glossed (options : Options) (code : Text) :
    let language := guess code
    let named := namesOnly language options code
    let inputs := inputLineCount language (pieces code)
    (∀ l : Language, l.evidence (glossed language options code) =
      l.evidence named + if l = sql then inputs else 0) ∧
    (language ≠ sql →
      (guess (glossed language options code) = language ↔
        guess named = language ∧ sql.evidence named + inputs ≤ language.evidence named)) ∧
    (language = sql →
      (guess (glossed language options code) = language ↔
        guess named = sql ∨ (guess named).evidence named < sql.evidence named + inputs)) := by
  intro language named inputs
  have hevidence := evidence_glossed language options code
  have hguess : guess (glossed language options code) =
      if (guess named).evidence named < sql.evidence named + inputs then sql else guess named :=
    guess_of_evidence hevidence
  refine ⟨hevidence, fun hother => ?_, fun hsql => ?_⟩
  · rw [hguess]
    constructor
    · intro hkept
      split at hkept
      next => exact absurd hkept.symm hother
      next hless => exact ⟨hkept, hkept ▸ Nat.not_lt.mp hless⟩
    · rintro ⟨hnamed, hmost⟩
      rw [hnamed, if_neg (Nat.not_lt.mpr hmost)]
  · rw [hguess, hsql]
    by_cases hless : (guess named).evidence named < sql.evidence named + inputs
    · simp [hless]
    · simp [hless]

/-- A snippet that takes input once, and a query that does: both are taken for the same language when
they have been glossed. -/
theorem guess_glossed_input :
    let code : Text := "x = input()\nprint(x)".toList
    let query : Text := "select x\nx = input()".toList
    (guess code = python ∧ guess (glossed (guess code) {} code) = python) ∧
      guess query = sql ∧ guess (glossed (guess query) {} query) = sql := by
  intro code query
  have hcode : guess code = python := by decide +kernel
  have hquery : guess query = sql := by decide +kernel
  have hnamed : guess (namesOnly (guess code) {} code) = guess code := by decide +kernel
  have hmost : sql.evidence (namesOnly (guess code) {} code) +
      inputLineCount (guess code) (pieces code) ≤
        (guess code).evidence (namesOnly (guess code) {} code) := by decide +kernel
  have hnamed' : guess (namesOnly (guess query) {} query) = sql := by decide +kernel
  have hother : guess code ≠ sql := by
    rw [hcode]
    decide
  obtain ⟨-, hkept, -⟩ := guess_glossed {} code
  obtain ⟨-, -, hkept'⟩ := guess_glossed {} query
  exact ⟨⟨hcode, ((hkept hother).mpr ⟨hnamed, hmost⟩).trans hcode⟩, hquery,
    ((hkept' hquery).mpr (Or.inl hnamed')).trans hquery⟩

/-- **Glosses can be evidence of another language**: by the remarks on input, by a name that is
repeated, and by parting what a clue finds over a line end. -/
theorem guess_glossed_ne :
    let input : Text := "x = input()\ny = input()\nprint(x)".toList
    let named : Text := "def select_from(x):".toList
    let parted : Text := "import\nx = 1".toList
    (guess input = python ∧ guess (glossed (guess input) {} input) = sql) ∧
      (guess named = python ∧ guess (glossed (guess named) {} named) = sql) ∧
      guess parted = python ∧ guess (glossed (guess parted) {} parted) = unknown := by
  decide +kernel

end Language
end CodeGloss
