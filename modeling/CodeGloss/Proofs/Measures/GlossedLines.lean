import CodeGloss.Proofs.Gloss
import CodeGloss.Proofs.Text.Lines

/-! # The lines of a glossed snippet

Glosses are put between pieces, and lines that are not blank are counted by another notion of line.
They agree on glosses: a gloss is one piece that is not blank, since it has a marker and no line
feed, and it stands above a piece that is not blank either.  So a glossed snippet has one line feed
and one line that is not blank more for each gloss (`countP_flatMap_glossLine`), and no more glosses
than the snippet has lines that are not blank (`glossCount_le`).

A reader of the glossed snippet sees only its lines.  Where the snippet has comments of its own, the
glosses may not be told from them: of two equal comments above a line either may be the gloss.  But
whatever is taken for the lines and for the comments above them (`IsReading`), there are as many
comments of any one kind (`IsReading.countP_comment`).
-/
namespace CodeGloss

open Text

namespace Gloss

variable {language : Language} {options : Options} {line gloss : Text}

/-- The number of glosses that a snippet is given. -/
def glossCount (language : Language) (options : Options) (code : Text) : Nat :=
  (pieces code).countP fun line => (above? language options line).isSome

/-! ## A gloss and the line below it -/

theorem allBlank_marker (language : Language) : allBlank language.marker = false := by
  cases language <;> decide

theorem allBlank_gloss (h : above? language options line = some gloss) :
    allBlank gloss = false := by
  obtain ⟨remark, -, rfl⟩ := exists_of_above? h
  rw [allBlank_append, allBlank_append, allBlank_marker, Bool.and_false, Bool.false_and]

/-- A blank line has no gloss. -/
theorem allBlank_of_above? (h : above? language options line = some gloss) :
    allBlank line = false := by
  obtain ⟨remark, hremark, -⟩ := exists_of_above? h
  by_contra hblank
  rw [Bool.not_eq_false] at hblank
  rw [remark?, hblank, Bool.true_or, if_pos rfl] at hremark
  cases hremark

theorem filledLineCount_piece {piece : Text} (hpiece : '\n' ∉ piece)
    (hfilled : allBlank piece = false) : filledLineCount piece = 1 := by
  rw [filledLineCount_eq, pieces, split_of_not_mem hpiece, List.countP_singleton, hfilled]
  rfl

/-! ## Readings -/

/-- **A reading of a glossed snippet**: lines, some with a comment above them. -/
structure IsReading (language : Language) (options : Options) (code : Text)
    (reading : List (Option Text × Text)) : Prop where
  /-- The lines are those of the snippet. -/
  lines : reading.map Prod.snd = pieces code
  /-- With the comments they are those of the glossed snippet. -/
  shown : pieces (glossed language options code) =
    reading.flatMap fun part => part.1.toList ++ [part.2]

/-- The reading that takes the glosses for the comments. -/
theorem isReading_above? (language : Language) (options : Options) (code : Text) :
    IsReading language options code
      ((pieces code).map fun line => (above? language options line, line)) where
  lines := by rw [List.map_map, Function.comp_def, List.map_id']
  shown := by
    rw [pieces_glossed, List.flatMap_map]
    rfl

/-- What is counted is counted among the lines and among the comments. -/
theorem countP_flatMap_toList (p : Text → Bool) (reading : List (Option Text × Text)) :
    (reading.flatMap fun part => part.1.toList ++ [part.2]).countP p =
      (reading.map Prod.snd).countP p + reading.countP fun part => part.1.any p := by
  induction reading with
  | nil => rfl
  | cons part later ih =>
    rw [List.flatMap_cons, List.countP_append, ih, List.map_cons, List.countP_cons,
      List.countP_cons, List.countP_append, List.countP_singleton]
    cases part.1 with
    | none =>
      simp only [Option.toList_none, Option.any_none, List.countP_nil, Bool.false_eq_true, if_false]
      omega
    | some comment =>
      simp only [Option.toList_some, Option.any_some, List.countP_singleton]
      omega

/-- What is counted in glossed lines is counted among the lines and among their glosses. -/
theorem countP_flatMap_glossLine (p : Text → Bool) (lines : List Text) :
    (lines.flatMap (glossLine language options)).countP p =
      lines.countP p + lines.countP fun line => (above? language options line).any p := by
  have hcount := countP_flatMap_toList p (lines.map fun line => (above? language options line, line))
  rw [List.flatMap_map, List.map_map, Function.comp_def, List.map_id', List.countP_map] at hcount
  exact hcount

/-- **Every reading has as many comments of a kind as there are glosses of that kind.** -/
theorem IsReading.countP_comment {code : Text} {reading : List (Option Text × Text)}
    (h : IsReading language options code reading) (p : Text → Bool) :
    (reading.countP fun part => part.1.any p) =
      (pieces code).countP fun line => (above? language options line).any p := by
  have hreading := countP_flatMap_toList p reading
  rw [← h.shown, pieces_glossed, countP_flatMap_glossLine, h.lines] at hreading
  exact (Nat.add_left_cancel hreading).symm

/-! ## All lines -/

/-- **What holds of every gloss is counted once more for each of them.** -/
theorem countP_flatMap_glossLine_of_forall {p : Text → Bool}
    (hp : ∀ line gloss, above? language options line = some gloss → p gloss = true)
    (lines : List Text) :
    (lines.flatMap (glossLine language options)).countP p =
      lines.countP p + lines.countP fun line => (above? language options line).isSome := by
  have hgloss (line : Text) :
      (above? language options line).any p = (above? language options line).isSome := by
    cases habove : above? language options line with
    | none => rfl
    | some gloss => exact hp line gloss habove
  simp only [countP_flatMap_glossLine, hgloss]

theorem count_lineFeed_glossed (language : Language) (options : Options) (code : Text) :
    (glossed language options code).count '\n' =
      code.count '\n' + glossCount language options code := by
  have hany : ∀ line gloss, above? language options line = some gloss →
      (fun _ : Text => true) gloss = true := fun _ _ _ => rfl
  have hlength := countP_flatMap_glossLine_of_forall hany (pieces code)
  rw [List.countP_true, ← pieces_glossed, length_pieces, length_pieces] at hlength
  unfold glossCount
  omega

theorem filledLineCount_glossed_eq (language : Language) (options : Options) (code : Text) :
    filledLineCount (glossed language options code) =
      filledLineCount code + glossCount language options code := by
  have hfilled : ∀ line gloss, above? language options line = some gloss →
      (!allBlank gloss) = true := fun line gloss h => by rw [allBlank_gloss h]; rfl
  rw [filledLineCount_eq, pieces_glossed, countP_flatMap_glossLine_of_forall hfilled,
    ← filledLineCount_eq, glossCount]

/-- Only lines that are not blank have a gloss. -/
theorem glossCount_le (language : Language) (options : Options) (code : Text) :
    glossCount language options code ≤ filledLineCount code := by
  rw [glossCount, filledLineCount_eq]
  refine List.countP_mono_left fun line _ hgloss => ?_
  obtain ⟨gloss, habove⟩ := Option.isSome_iff_exists.mp hgloss
  rw [allBlank_of_above? habove]
  rfl

/-- **A glossed snippet has as many more lines that are not blank as it has more line feeds**: one
for each gloss, and at most as many as it had.  Each gloss is one such line, and stands above one. -/
theorem filledLineCount_glossed (language : Language) (options : Options) (code : Text) :
    (glossed language options code).count '\n' =
        code.count '\n' + glossCount language options code ∧
      filledLineCount (glossed language options code) =
        filledLineCount code + ((glossed language options code).count '\n' - code.count '\n') ∧
      filledLineCount (glossed language options code) ≤ 2 * filledLineCount code ∧
      ∀ line ∈ pieces code, ∀ gloss, above? language options line = some gloss →
        filledLineCount gloss = 1 ∧ filledLineCount line = 1 := by
  have hfeeds := count_lineFeed_glossed language options code
  have hlines := filledLineCount_glossed_eq language options code
  have hle := glossCount_le language options code
  refine ⟨hfeeds, by omega, by omega, ?_⟩
  intro line hline gloss habove
  have hfree : '\n' ∉ line := lineFeed_not_mem_of_mem_pieces hline
  exact ⟨filledLineCount_piece (lineFeed_not_mem_gloss hfree habove) (allBlank_gloss habove),
    filledLineCount_piece hfree (allBlank_of_above? habove)⟩

/-- A line behind an ideographic space, with a carriage return at its end, and a blank line. -/
theorem filledLineCount_glossed_wide :
    let code : Text := "\u3000x = 1\r\n\u3000\r\n".toList
    let gloss : Text := "\u3000# Assign a value to a variable".toList
    "\u3000x = 1\r".toList ∈ pieces code ∧
      above? .python { indented := true } "\u3000x = 1\r".toList = some gloss ∧
      filledLineCount gloss = 1 ∧ filledLineCount "\u3000x = 1\r".toList = 1 := by
  intro code gloss
  have hline : "\u3000x = 1\r".toList ∈ pieces code := by decide
  have habove : above? .python { indented := true } "\u3000x = 1\r".toList = some gloss := by
    decide +kernel
  obtain ⟨-, -, -, hone⟩ := filledLineCount_glossed .python { indented := true } code
  exact ⟨hline, habove, hone _ hline gloss habove⟩

end Gloss
end CodeGloss
