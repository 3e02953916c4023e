import CodeGloss.Proofs.Text.Lines

/-! # Line ends with carriage returns

Line ends come in two forms, with a carriage return before the line feed and without one.
`withReturns` goes from the short form to the long one.  It changes no line but by a carriage return
at its end (`pieces_withReturns_append`), and a carriage return is blank: trimming takes it away, and
a line is blank with it if it is blank without it.  So lines that are not blank remain as many
(`filledLineCount_withReturns`).
-/
namespace CodeGloss
namespace Text

/-- The text with a carriage return before every line feed. -/
def withReturns (t : Text) : Text :=
  t.flatMap fun c => if c = '\n' then ['\r', '\n'] else [c]

@[simp] theorem withReturns_nil : withReturns [] = [] := rfl

@[simp] theorem withReturns_lineFeed (t : Text) :
    withReturns ('\n' :: t) = '\r' :: '\n' :: withReturns t := rfl

theorem withReturns_cons {c : Char} (hc : c ≠ '\n') (t : Text) :
    withReturns (c :: t) = c :: withReturns t := by
  rw [withReturns, List.flatMap_cons, if_neg hc, List.singleton_append, withReturns]

theorem withReturns_append (s t : Text) : withReturns (s ++ t) = withReturns s ++ withReturns t :=
  List.flatMap_append

theorem withReturns_of_not_mem {t : Text} (h : '\n' ∉ t) : withReturns t = t := by
  induction t with
  | nil => rfl
  | cons c rest ih =>
    rw [List.mem_cons, not_or] at h
    rw [withReturns_cons (Ne.symm h.1), ih h.2]

/-- A text ends as before: a line end still ends with a line feed. -/
theorem getLast?_withReturns (t : Text) : (withReturns t).getLast? = t.getLast? := by
  rcases List.eq_nil_or_concat' t with rfl | ⟨before, c, rfl⟩
  · rfl
  · rw [withReturns_append]
    by_cases hc : c = '\n'
    · subst hc
      simp
    · simp [withReturns_cons hc]

theorem withReturns_ne_nil {t : Text} (h : t ≠ []) : withReturns t ≠ [] := by
  intro hnil
  have hlast := getLast?_withReturns t
  rw [hnil] at hlast
  exact h (List.getLast?_eq_none_iff.mp hlast.symm)

/-! ## Lines -/

theorem pieces_withReturns_of_not_mem {line : Text} (h : '\n' ∉ line) :
    pieces (withReturns line) = [line] := by
  rw [withReturns_of_not_mem h, pieces, split_of_not_mem h]

/-- **A line that has an end gets a carriage return, and nothing else changes.** -/
theorem pieces_withReturns_append {line : Text} (h : '\n' ∉ line) (rest : Text) :
    pieces (withReturns (line ++ '\n' :: rest)) = (line ++ ['\r']) :: pieces (withReturns rest) := by
  have hmark : '\n' ∉ line ++ ['\r'] := by simpa using h
  rw [withReturns_append, withReturns_of_not_mem h, withReturns_lineFeed, List.append_cons]
  exact split_append_cons hmark _

theorem allBlank_append_return (line : Text) : allBlank (line ++ ['\r']) = allBlank line := by
  rw [allBlank_append, show allBlank ['\r'] = true by decide, Bool.and_true]

theorem filledLineCount_withReturns (t : Text) :
    filledLineCount (withReturns t) = filledLineCount t := by
  rw [filledLineCount_eq, filledLineCount_eq]
  induction t using mark_induction '\n' with
  | last t ht => rw [withReturns_of_not_mem ht]
  | cut line rest hline ih =>
    have hpieces : pieces (line ++ '\n' :: rest) = line :: pieces rest := split_append_cons hline rest
    rw [pieces_withReturns_append hline, hpieces, List.countP_cons, List.countP_cons, ih,
      allBlank_append_return]

/-- **Trimming takes a carriage return away with the blanks around it.** -/
theorem trim_append_return (line : Text) : trim (line ++ ['\r']) = trim line := by
  have hend : trimEnd ['\r'] = [] := by decide
  cases hblank : allBlank line with
  | true =>
    have hreturn : allBlank (line ++ ['\r']) = true := by rw [allBlank_append_return, hblank]
    rw [allBlank, List.isEmpty_iff] at hblank hreturn
    rw [hblank, hreturn]
  | false =>
    rw [trim, trimStart_append_of_filled hblank, trimEnd, dropEndWhile_append, ← trimEnd, hend,
      List.isEmpty_nil, if_pos rfl, trim, trimEnd]

theorem leadingBlanks_append_return {line : Text} (h : allBlank line = false) :
    leadingBlanks (line ++ ['\r']) = leadingBlanks line := by
  have hlength : (line.takeWhile isBlank).length ≠ line.length := by
    intro hlength
    have hall : ∀ c ∈ line, isBlank c = true := by
      rw [← List.takeWhile_eq_self_iff]
      exact (List.takeWhile_prefix isBlank).eq_of_length hlength
    rw [allBlank_eq_true_iff.mpr hall] at h
    cases h
  rw [leadingBlanks, List.takeWhile_append, if_neg hlength, leadingBlanks]

end Text
end CodeGloss
