import CodeGloss.Proofs.Gloss
import CodeGloss.Proofs.Text.LineEnds

/-! # Glosses and line ends

Glossing cuts a snippet at its line feeds only, so a carriage return is the last character of a line.
There it makes no difference to the gloss above the line, not even to its margin
(`above?_append_return`).  Hence a snippet with carriage returns is glossed as it is without them, and
the carriage returns are where they were: glossing and leaving them out gives the same in either
order (`withoutReturns_glossed`).
-/
namespace CodeGloss

open Text

/-! ## Leaving carriage returns out -/

namespace Text

/-- The text without its carriage returns. -/
def withoutReturns (t : Text) : Text :=
  t.filter (· != '\r')

theorem withoutReturns_of_not_mem {t : Text} (h : '\r' ∉ t) : withoutReturns t = t :=
  List.filter_eq_self.mpr fun _ hc => bne_iff_ne.mpr fun heq => h (heq ▸ hc)

theorem withoutReturns_append_return {line : Text} (h : '\r' ∉ line) :
    withoutReturns (line ++ ['\r']) = line := by
  rw [withoutReturns, List.filter_append, ← withoutReturns, withoutReturns_of_not_mem h]
  exact List.append_nil line

/-- They can be left out piece by piece. -/
theorem withoutReturns_ofPieces (ps : List Text) :
    withoutReturns (ofPieces ps) = ofPieces (ps.map withoutReturns) := by
  induction ps with
  | nil => rfl
  | cons piece later ih =>
    by_cases hlater : later = []
    · subst hlater
      rw [List.map_singleton, ofPieces_singleton, ofPieces_singleton]
    · have hmap : later.map withoutReturns ≠ [] := by simpa using hlater
      rw [List.map_cons, ofPieces_cons piece hlater, ofPieces_cons _ hmap, ← ih]
      exact List.filter_append piece ('\n' :: ofPieces later)

end Text

namespace Gloss

variable {language : Language} {options : Options}

/-! ## Lines with a carriage return -/

theorem remark?_append_return (language : Language) (line : Text) :
    remark? language (line ++ ['\r']) = remark? language line := by
  have hcomment (marker : Text) : isComment marker (line ++ ['\r']) = isComment marker line := by
    rw [isComment, trim_append_return, isComment]
  have hkind : remarkOn? (line ++ ['\r']) = remarkOn? line := by
    rw [remarkOn?, trim_append_return, remarkOn?]
  rw [remark?, allBlank_append_return, hcomment, hkind, remark?]

/-- **A carriage return at the end of a line makes no difference to the gloss above it.** -/
theorem above?_append_return (language : Language) (options : Options) (line : Text) :
    above? language options (line ++ ['\r']) = above? language options line := by
  rw [above?, remark?_append_return, above?]
  cases hblank : allBlank line with
  | true =>
    have hnone : remark? language line = none := by
      rw [remark?, hblank, Bool.true_or, if_pos rfl]
    rw [hnone, Option.map_none, Option.map_none]
  | false => simp only [margin, leadingBlanks_append_return hblank]

/-- A line with its gloss, when the carriage returns are left out. -/
theorem map_withoutReturns_glossLine {line : Text} (h : '\r' ∉ line) {line' : Text}
    (hline : above? language options line' = above? language options line)
    (hleft : withoutReturns line' = line) :
    (glossLine language options line').map withoutReturns = glossLine language options line := by
  cases habove : above? language options line with
  | none =>
    rw [glossLine_of_none habove, glossLine_of_none (hline.trans habove), List.map_singleton, hleft]
  | some gloss =>
    have hgloss : '\r' ∉ gloss := not_mem_gloss (by decide) h habove
    rw [glossLine_of_some habove, glossLine_of_some (hline.trans habove), List.map_cons,
      List.map_singleton, hleft, withoutReturns_of_not_mem hgloss]

/-- **A snippet with carriage returns is glossed as the snippet is without them.** -/
theorem withoutReturns_glossed (language : Language) (options : Options) {code : Text}
    (h : '\r' ∉ code) :
    withoutReturns (glossed language options (withReturns code)) =
      glossed language options code := by
  rw [glossed, withoutReturns_ofPieces, List.map_flatMap, glossed]
  congr 1
  induction code using mark_induction '\n' with
  | last line hline =>
    rw [pieces_withReturns_of_not_mem hline, pieces, split_of_not_mem hline,
      List.flatMap_singleton, List.flatMap_singleton]
    exact map_withoutReturns_glossLine h rfl (withoutReturns_of_not_mem h)
  | cut line rest hline ih =>
    rw [List.mem_append, List.mem_cons, not_or, not_or] at h
    obtain ⟨hreturn, -, hrest⟩ := h
    have hpieces : pieces (line ++ '\n' :: rest) = line :: pieces rest :=
      split_append_cons hline rest
    rw [pieces_withReturns_append hline, hpieces, List.flatMap_cons, List.flatMap_cons, ih hrest]
    rw [map_withoutReturns_glossLine hreturn (above?_append_return language options line)
      (withoutReturns_append_return hreturn)]

end Gloss
end CodeGloss
