import CodeGloss.Gloss
import CodeGloss.Proofs.Remark
import Mathlib.Logic.Function.Iterate

/-! # Glossing again and undoing it

Glossing works on pieces: the pieces of a glossed snippet are the lines of the snippet, each with
its gloss above it (`pieces_glossed`), because no gloss has a line feed.  Two properties follow.

* A gloss is a comment itself, whatever its margin and the marker, so another pass puts no gloss
  above it.  After `k` passes a line that is understood stands under `k` copies of its gloss
  (`pieces_iterate_glossed`).
* Read from the last line to the first, a glossed snippet shows where its glosses are, though a
  gloss may look like a comment of the user: above each line with a remark there is exactly one
  (`dropGlosses_reverse_flatMap`).  So glossing can be undone, and no two snippets have the same
  glossed form (`leftInverse_unglossed`).
-/
namespace CodeGloss
namespace Gloss

open Text

variable {language : Language} {options : Options}

/-! ## What a gloss is -/

theorem marker_bounds (language : Language) :
    trimEnd language.marker = language.marker ∧
      ∃ first later, language.marker = first :: later ∧ isBlank first = false := by
  cases language <;> exact ⟨by decide, _, _, rfl, by decide⟩

theorem isBlank_of_mem_margin {line : Text} {c : Char} (h : c ∈ margin options line) :
    isBlank c = true := by
  unfold margin at h
  split at h
  · exact List.mem_takeWhile_imp h
  · exact absurd h List.not_mem_nil

/-- A comment that is trimmed begins with the marker. -/
theorem trimStart_comment {blanks : Text} (h : ∀ c ∈ blanks, isBlank c = true) (rest : Text) :
    trimStart (blanks ++ language.marker ++ rest) = language.marker ++ rest := by
  obtain ⟨-, first, later, hmarker, hfirst⟩ := marker_bounds language
  rw [List.append_assoc, trimStart_blanks_append h, hmarker, List.cons_append]
  exact trimStart_cons_of_not_blank hfirst _

/-- Blanks and the marker in front make a line a comment. -/
theorem isComment_append {blanks : Text} (h : ∀ c ∈ blanks, isBlank c = true) (rest : Text) :
    isComment language.marker (blanks ++ language.marker ++ rest) = true := by
  rw [isComment, trim, trimStart_comment h, List.isPrefixOf_iff_prefix]
  exact prefix_trimEnd_append (marker_bounds language).1 rest

theorem remark?_eq_none_of_isComment {line : Text} (h : isComment language.marker line = true) :
    remark? language line = none := by
  rw [remark?, h, Bool.or_true, if_pos rfl]

theorem remarkOn?_of_remark? {line remark : Text} (h : remark? language line = some remark) :
    remarkOn? line = some remark := by
  unfold remark? at h
  split at h
  · cases h
  · exact h

theorem exists_of_above? {line gloss : Text} (h : above? language options line = some gloss) :
    ∃ remark, remark? language line = some remark ∧
      gloss = margin options line ++ language.marker ++ ' ' :: remark := by
  obtain ⟨remark, hremark, rfl⟩ := Option.map_eq_some_iff.mp h
  exact ⟨remark, hremark, rfl⟩

/-- **No gloss goes above a gloss.** -/
theorem above?_gloss {line gloss : Text} (h : above? language options line = some gloss) :
    above? language options gloss = none := by
  obtain ⟨remark, _, rfl⟩ := exists_of_above? h
  rw [above?, remark?_eq_none_of_isComment (isComment_append (fun _ => isBlank_of_mem_margin) _),
    Option.map_none]

/-- What stands before the space is in a gloss only if it is in the line below. -/
theorem not_mem_gloss {line gloss : Text} {c : Char} (hc : c.toNat < 0x20) (hline : c ∉ line)
    (h : above? language options line = some gloss) : c ∉ gloss := by
  obtain ⟨remark, hremark, rfl⟩ := exists_of_above? h
  have hmargin : c ∉ margin options line := by
    unfold margin
    split
    · exact fun hmem => hline (List.takeWhile_subset isBlank hmem)
    · exact List.not_mem_nil
  have hmarker : c ∉ language.marker ++ " ".toList := by
    intro hmem
    have hvisible : (language.marker ++ " ".toList).all fun c => decide (0x20 ≤ c.toNat) := by
      cases language <;> decide
    exact absurd (le_toNat_of_mem_fixed hvisible hmem) (by omega)
  have hrest : c ∉ remark := fun hmem =>
    absurd (le_toNat_of_mem_remarkOn? (remarkOn?_of_remark? hremark) hmem) (by omega)
  have hspace : margin options line ++ language.marker ++ ' ' :: remark =
      margin options line ++ (language.marker ++ " ".toList) ++ remark := by simp
  rw [hspace, List.mem_append, List.mem_append, not_or, not_or]
  exact ⟨⟨hmargin, hmarker⟩, hrest⟩

/-- A gloss above a piece of a text is a piece itself. -/
theorem lineFeed_not_mem_gloss {line gloss : Text} (hline : '\n' ∉ line)
    (h : above? language options line = some gloss) : '\n' ∉ gloss :=
  not_mem_gloss (by decide) hline h

/-! ## One pass -/

theorem glossLine_of_none {line : Text} (h : above? language options line = none) :
    glossLine language options line = [line] := by
  rw [glossLine, h, Option.toList_none, List.nil_append]

theorem glossLine_of_some {line gloss : Text} (h : above? language options line = some gloss) :
    glossLine language options line = [gloss, line] := by
  rw [glossLine, h, Option.toList_some, List.singleton_append]

theorem not_mem_of_mem_glossLine {line piece : Text} {c : Char} (hc : c.toNat < 0x20)
    (hline : c ∉ line) (h : piece ∈ glossLine language options line) : c ∉ piece := by
  cases habove : above? language options line with
  | none =>
    rw [glossLine_of_none habove, List.mem_singleton] at h
    exact h ▸ hline
  | some gloss =>
    rw [glossLine_of_some habove, List.mem_pair] at h
    rcases h with rfl | rfl
    · exact not_mem_gloss hc hline habove
    · exact hline

/-- The pieces of a glossed snippet are its lines under their glosses. -/
theorem pieces_glossed (language : Language) (options : Options) (code : Text) :
    pieces (glossed language options code) =
      (pieces code).flatMap (glossLine language options) := by
  refine pieces_ofPieces ?_ ?_
  · obtain ⟨first, later, hpieces⟩ := List.exists_cons_of_ne_nil (pieces_ne_nil code)
    rw [hpieces, List.flatMap_cons, glossLine]
    simp
  · intro piece hpiece
    obtain ⟨line, hline, hmem⟩ := List.mem_flatMap.mp hpiece
    exact not_mem_of_mem_glossLine (by decide) (lineFeed_not_mem_of_mem_pieces hline) hmem

/-! ## Many passes -/

/-- A line under `k` copies of its gloss: the blanks of its margin, the marker, a space and the
remark.  A blank line, a comment, and a line of no kind stand alone. -/
def underCopies (language : Language) (options : Options) (k : Nat) (line : Text) : List Text :=
  if trim line = [] ∨ language.marker <+: trim line then [line]
  else match remarkOn? line with
    | none => [line]
    | some remark =>
      List.replicate k
        ((if options.indented then leadingBlanks line else []) ++ language.marker ++
          " ".toList ++ remark) ++ [line]

theorem underCopies_eq (k : Nat) (line : Text) :
    underCopies language options k line =
      (above? language options line).elim [] (List.replicate k) ++ [line] := by
  have hskip : (allBlank line || isComment language.marker line) = true ↔
      trim line = [] ∨ language.marker <+: trim line := by
    rw [Bool.or_eq_true, allBlank, List.isEmpty_iff, isComment, List.isPrefixOf_iff_prefix]
  unfold underCopies above? remark?
  by_cases h : trim line = [] ∨ language.marker <+: trim line
  · rw [if_pos h, if_pos (hskip.mpr h)]
    rfl
  · rw [if_neg h, if_neg (mt hskip.mp h)]
    cases remarkOn? line with
    | none => rfl
    | some remark => simp [margin]

/-- A pass adds one copy. -/
theorem flatMap_glossLine_underCopies (k : Nat) (line : Text) :
    (underCopies language options k line).flatMap (glossLine language options) =
      underCopies language options (k + 1) line := by
  rw [underCopies_eq, underCopies_eq]
  cases h : above? language options line with
  | none => simp [glossLine_of_none h]
  | some gloss =>
    have hcopies : (List.replicate k gloss).flatMap (glossLine language options) =
        List.replicate k gloss := by
      rw [List.flatMap_replicate, glossLine_of_none (above?_gloss h)]
      simp
    simp only [Option.elim_some, List.flatMap_append, List.flatMap_singleton, hcopies,
      glossLine_of_some h, List.replicate_succ', List.append_assoc, List.singleton_append]

/-- **After `k` passes each line stands under `k` copies of its gloss**, and nothing else has
changed. -/
theorem pieces_iterate_glossed (language : Language) (options : Options) (k : Nat) (code : Text) :
    pieces ((glossed language options)^[k] code) =
      (pieces code).flatMap (underCopies language options k) := by
  induction k with
  | zero =>
    have hline : underCopies language options 0 = fun line => [line] := by
      funext line
      rw [underCopies_eq]
      cases above? language options line <;> rfl
    rw [hline, Function.iterate_zero_apply, List.flatMap_singleton']
  | succ k ih =>
    rw [Function.iterate_succ_apply', pieces_glossed, ih, List.flatMap_assoc]
    simp only [flatMap_glossLine_underCopies]

/-! ## Undoing a pass -/

theorem dropGlosses_cons_of_none {line : Text} (h : remark? language line = none)
    (above : List Text) :
    dropGlosses language (line :: above) = line :: dropGlosses language above := by
  rw [dropGlosses.eq_def]
  simp [h]

theorem dropGlosses_cons_of_some {line remark : Text} (h : remark? language line = some remark)
    (gloss : Text) (further : List Text) :
    dropGlosses language (line :: gloss :: further) = line :: dropGlosses language further := by
  rw [dropGlosses.eq_def]
  simp [h]

/-- **From the last line to the first, the glosses are dropped and the lines are kept.** -/
theorem dropGlosses_reverse_flatMap (language : Language) (options : Options) (lines : List Text) :
    dropGlosses language (lines.flatMap (glossLine language options)).reverse = lines.reverse := by
  -- the glosses are dropped from the last line on, so the induction takes lines off the end
  induction lines using List.reverseRecOn with
  | nil => rfl
  | append_singleton above line ih =>
    rw [List.flatMap_append, List.flatMap_singleton, List.reverse_append, List.reverse_concat]
    cases h : above? language options line with
    | none =>
      have hremark : remark? language line = none := Option.map_eq_none_iff.mp h
      rw [glossLine_of_none h, List.reverse_singleton, List.singleton_append,
        dropGlosses_cons_of_none hremark, ih]
    | some gloss =>
      obtain ⟨remark, hremark, _⟩ := exists_of_above? h
      rw [glossLine_of_some h, show [gloss, line].reverse = [line, gloss] from rfl,
        List.cons_append, List.singleton_append, dropGlosses_cons_of_some hremark, ih]

/-- Taking out the glosses gives the snippet back. -/
theorem unglossed_glossed (language : Language) (options : Options) (code : Text) :
    unglossed language (glossed language options code) = code := by
  rw [unglossed, pieces_glossed, dropGlosses_reverse_flatMap, List.reverse_reverse, ofPieces_pieces]

/-- **Glossing loses nothing**: taking out the glosses gives the snippet back, so snippets with the
same glossed form are equal. -/
theorem leftInverse_unglossed (language : Language) (options : Options) :
    Function.LeftInverse (unglossed language) (glossed language options) ∧
      Function.Injective (glossed language options) := by
  have hleft : Function.LeftInverse (unglossed language) (glossed language options) :=
    unglossed_glossed language options
  exact ⟨hleft, hleft.injective⟩

end Gloss
end CodeGloss
