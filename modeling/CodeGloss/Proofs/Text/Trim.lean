import CodeGloss.Text.Blank
import Mathlib.Data.List.DropRight

/-! # Trimming

What is left of texts that are put together when they are trimmed.  Blanks at the ends vanish; a
part with a character that is not blank keeps its inner end and stops the trimming there.
-/
namespace CodeGloss
namespace Text

theorem dropEndWhile_append (p : Char → Bool) (s t : Text) :
    dropEndWhile p (s ++ t) =
      if (dropEndWhile p t).isEmpty then dropEndWhile p s else s ++ dropEndWhile p t := by
  rw [dropEndWhile, List.reverse_append, List.dropWhile_append]
  by_cases h : (t.reverse.dropWhile p).isEmpty <;> simp [dropEndWhile, h]

/-! ## Blank texts -/

theorem trimStart_eq_nil_iff {t : Text} : trimStart t = [] ↔ ∀ c ∈ t, isBlank c = true :=
  List.dropWhile_eq_nil_iff

theorem trimEnd_eq_nil_iff {t : Text} : trimEnd t = [] ↔ ∀ c ∈ t, isBlank c = true :=
  List.rdropWhile_eq_nil_iff

theorem trim_eq_nil_iff {t : Text} : trim t = [] ↔ ∀ c ∈ t, isBlank c = true := by
  rw [trim, trimEnd_eq_nil_iff]
  constructor
  · intro h c hc
    rw [← leadingBlanks_append_trimStart t] at hc
    rcases List.mem_append.mp hc with hc | hc
    · exact List.mem_takeWhile_imp hc
    · exact h c hc
  · intro h c hc
    exact h c (List.dropWhile_subset isBlank hc)

theorem allBlank_eq_true_iff {t : Text} : allBlank t = true ↔ ∀ c ∈ t, isBlank c = true := by
  rw [allBlank, List.isEmpty_iff, trim_eq_nil_iff]

theorem allBlank_append (s t : Text) : allBlank (s ++ t) = (allBlank s && allBlank t) := by
  rw [Bool.eq_iff_iff, Bool.and_eq_true]
  simp only [allBlank_eq_true_iff, List.mem_append, or_imp, forall_and]

/-- Trimming takes away blanks at both ends. -/
theorem exists_eq_append_trim (t : Text) : ∃ u v : Text, (∀ c ∈ u, isBlank c = true) ∧
    (∀ c ∈ v, isBlank c = true) ∧ t = u ++ (trim t ++ v) := by
  refine ⟨leadingBlanks t, ((trimStart t).reverse.takeWhile isBlank).reverse, ?_, ?_, ?_⟩
  · exact fun c hc => List.mem_takeWhile_imp hc
  · exact fun c hc => List.mem_takeWhile_imp (List.mem_reverse.mp hc)
  · rw [trim, trimEnd, dropEndWhile, ← List.reverse_append, List.takeWhile_append_dropWhile,
      List.reverse_reverse, leadingBlanks_append_trimStart]

theorem trim_isInfix (t : Text) : trim t <:+: t := by
  obtain ⟨u, v, -, -, ht⟩ := exists_eq_append_trim t
  exact ⟨u, v, by rw [List.append_assoc]; exact ht.symm⟩

/-! ## Parts that are not blank -/

theorem trimStart_append_of_filled {s : Text} (h : allBlank s = false) (t : Text) :
    trimStart (s ++ t) = trimStart s ++ t := by
  have hs : ¬ (s.dropWhile isBlank).isEmpty := by
    rw [List.isEmpty_iff, ← trimStart, trimStart_eq_nil_iff, ← allBlank_eq_true_iff, h]
    exact Bool.false_ne_true
  rw [trimStart, List.dropWhile_append, if_neg hs, trimStart]

theorem trimEnd_append_of_filled (s : Text) {t : Text} (h : allBlank t = false) :
    trimEnd (s ++ t) = s ++ trimEnd t := by
  have ht : ¬ (dropEndWhile isBlank t).isEmpty := by
    rw [List.isEmpty_iff, ← trimEnd, trimEnd_eq_nil_iff, ← allBlank_eq_true_iff, h]
    exact Bool.false_ne_true
  rw [trimEnd, dropEndWhile_append, if_neg ht, trimEnd]

/-- Between two parts that are not blank nothing is trimmed. -/
theorem trim_append_append {s t : Text} (middle : Text) (hs : allBlank s = false)
    (ht : allBlank t = false) :
    trim (s ++ (middle ++ t)) = trimStart s ++ (middle ++ trimEnd t) := by
  rw [trim, trimStart_append_of_filled hs, ← List.append_assoc, trimEnd_append_of_filled _ ht,
    List.append_assoc]

theorem trimStart_blanks_append {blanks : Text} (h : ∀ c ∈ blanks, isBlank c = true) (t : Text) :
    trimStart (blanks ++ t) = trimStart t :=
  List.dropWhile_append_of_pos h

theorem trimStart_cons_of_not_blank {c : Char} (h : isBlank c = false) (t : Text) :
    trimStart (c :: t) = c :: t := by
  simp [trimStart, h]

theorem trim_cons_of_blank {c : Char} (h : isBlank c = true) (t : Text) :
    trim (c :: t) = trim t := by
  rw [trim, trimStart, List.dropWhile_cons_of_pos h, ← trimStart, ← trim]

/-- Trimming the end cuts into nothing that ends with a character that is not blank. -/
theorem prefix_trimEnd_append {s : Text} (h : trimEnd s = s) (t : Text) :
    s <+: trimEnd (s ++ t) := by
  rw [trimEnd, dropEndWhile_append]
  split
  · exact ⟨[], (List.append_nil s).trans h.symm⟩
  · exact List.prefix_append s _

/-! ## What trimming leaves -/

theorem mem_of_mem_trim {c : Char} {t : Text} (h : c ∈ trim t) : c ∈ t :=
  List.dropWhile_subset isBlank ((List.rdropWhile_prefix isBlank (trimStart t)).subset h)

theorem trimEnd_trimEnd (t : Text) : trimEnd (trimEnd t) = trimEnd t :=
  List.rdropWhile_idempotent isBlank t

/-- Nothing is left to trim. -/
theorem trim_trim (t : Text) : trim (trim t) = trim t := by
  have hstart : trimStart (trim t) = trim t := by
    rw [trim]
    cases h : trimStart t with
    | nil => rfl
    | cons c rest =>
      have hc : isBlank c = false := by
        have := List.head?_dropWhile_not isBlank t
        rw [← trimStart, h] at this
        simpa using this
      -- `c` is what `trimStart` stopped at, so trimming the end leaves it too
      have hone : trimEnd [c] = [c] := by simp [trimEnd, dropEndWhile, hc]
      obtain ⟨later, hlater⟩ := prefix_trimEnd_append hone rest
      rw [List.singleton_append, List.singleton_append] at hlater
      rw [← hlater, trimStart_cons_of_not_blank hc]
  rw [show trim (trim t) = trimEnd (trimStart (trim t)) from rfl, hstart]
  exact trimEnd_trimEnd (trimStart t)

end Text
end CodeGloss
