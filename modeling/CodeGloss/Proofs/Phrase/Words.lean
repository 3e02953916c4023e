import CodeGloss.Proofs.Pattern.LetterCase
import CodeGloss.Proofs.Remark

/-! # The words of a name

Two changes set the words of a name apart: a space comes in where a small letter has a capital
behind it, and spaces take the places of underscores.  So the words hold the characters of the name
in their order (`stripped_words`), they have more characters than the name exactly if its case
changes somewhere (`length_words_eq_iff`), and there is nothing left to set apart in them
(`noCaseChange_words`, `words_of_noCaseChange`).

Names that are put together are set apart at the joint too, if their case changes there
(`words_append`).
-/
namespace CodeGloss
namespace Phrase

open Text

/-- No small letter of ASCII has a capital right behind it. -/
def NoCaseChange (t : Text) : Prop :=
  t.IsChain fun a b => ¬ (a.isLower = true ∧ b.isUpper = true)

instance (t : Text) : Decidable (NoCaseChange t) :=
  inferInstanceAs (Decidable (t.IsChain fun a b => ¬ (a.isLower = true ∧ b.isUpper = true)))

/-- The space between a character and a text behind it, where the case changes. -/
def spaceBetween (before : Option Char) (t : Text) : Text :=
  if before.any Char.isLower && t.head?.any Char.isUpper then [' '] else []

/-- The characters of a text in small letters, but for blanks and underscores. -/
def stripped (t : Text) : Text :=
  (t.map Char.toLower).filter fun c => !isBlank c && c != '_'

variable {c : Char} {before : Option Char} {s t : Text}

/-! ## Where the case changes -/

theorem spaceBetween_cases (before : Option Char) (t : Text) :
    spaceBetween before t = [] ∨ spaceBetween before t = [' '] := by
  unfold spaceBetween
  split
  · exact Or.inr rfl
  · exact Or.inl rfl

theorem spaceBetween_of_not_isUpper (h : t.head?.any Char.isUpper = false) :
    spaceBetween before t = [] := by
  rw [spaceBetween, h, Bool.and_false]
  rfl

theorem spaceBetween_of_not_isLower (h : before.any Char.isLower = false) :
    spaceBetween before t = [] := by
  rw [spaceBetween, h, Bool.false_and]
  rfl

theorem noCaseChange_append :
    NoCaseChange (s ++ t) ↔ NoCaseChange s ∧ spaceBetween s.getLast? t = [] ∧ NoCaseChange t := by
  have hjoint : spaceBetween s.getLast? t = [] ↔
      ∀ a ∈ s.getLast?, ∀ b ∈ t.head?, ¬ (a.isLower = true ∧ b.isUpper = true) := by
    unfold spaceBetween
    cases s.getLast? <;> cases t.head? <;> simp
  rw [NoCaseChange, List.isChain_append, hjoint]
  constructor
  · rintro ⟨hs, ht, hbetween⟩
    exact ⟨hs, hbetween, ht⟩
  · rintro ⟨hs, hbetween, ht⟩
    exact ⟨hs, ht, hbetween⟩

theorem noCaseChange_cons :
    NoCaseChange (c :: t) ↔ spaceBetween (some c) t = [] ∧ NoCaseChange t := by
  have happend := noCaseChange_append (s := [c]) (t := t)
  rw [List.singleton_append, List.getLast?_singleton] at happend
  rw [happend]
  exact and_iff_right (List.isChain_singleton c)

theorem NoCaseChange.of_isInfix (ht : NoCaseChange t) (h : s <:+: t) : NoCaseChange s :=
  List.IsChain.infix ht h

/-! ## Words -/

theorem splitCase_cons (c : Char) (t : Text) :
    splitCase (c :: t) = c :: (spaceBetween (some c) t ++ splitCase t) := by
  cases t with
  | nil => simp [splitCase, spaceBetween]
  | cons d rest =>
    rw [splitCase]
    by_cases h : (c.isLower && d.isUpper) = true
    · rw [if_pos h]
      simp only [spaceBetween, Option.any_some, List.head?_cons, h]
      rfl
    · rw [if_neg h]
      simp only [spaceBetween, Option.any_some, List.head?_cons, h]
      rfl

theorem words_cons (c : Char) (t : Text) :
    words (c :: t) = (if c = '_' then ' ' else c) :: (spaceBetween (some c) t ++ words t) := by
  have hspace : (spaceBetween (some c) t).map (fun d => if d = '_' then ' ' else d) =
      spaceBetween (some c) t := by
    rcases spaceBetween_cases (some c) t with h | h <;> rw [h] <;> rfl
  rw [words, splitCase_cons, List.map_cons, List.map_append, hspace, words]

/-- **The words of names that are put together.** -/
theorem words_append (s t : Text) :
    words (s ++ t) = words s ++ (spaceBetween s.getLast? t ++ words t) := by
  induction s with
  | nil => rfl
  | cons c s ih =>
    rw [List.cons_append, words_cons, words_cons, ih, List.cons_append]
    cases s with
    | nil => simp [words, splitCase, spaceBetween]
    | cons d s => simp [spaceBetween, List.getLast?_cons_cons]

/-- The last letter of a name is the last one of its words. -/
theorem exists_words_concat (front : Text) (hc : c ≠ '_') :
    ∃ before, words (front ++ [c]) = before ++ [c] := by
  have hword : words [c] = [c] := by
    rw [words_cons, if_neg hc, spaceBetween_of_not_isUpper rfl]
    rfl
  refine ⟨words front ++ spaceBetween front.getLast? [c], ?_⟩
  rw [words_append, hword, List.append_assoc]

theorem underscore_not_mem_words (t : Text) : '_' ∉ words t := by
  intro h
  obtain ⟨c, -, hc⟩ := List.mem_map.mp h
  split at hc
  next => exact absurd hc (by decide)
  next hne => exact hne hc

/-- Where no case changes and there is no underscore, the words stand apart already. -/
theorem words_of_noCaseChange (h : NoCaseChange t) (hunderscore : '_' ∉ t) : words t = t := by
  induction t with
  | nil => rfl
  | cons c t ih =>
    obtain ⟨hspace, ht⟩ := noCaseChange_cons.mp h
    have hc : c ≠ '_' := fun heq => hunderscore (heq ▸ List.mem_cons_self)
    have hrest : '_' ∉ t := fun hmem => hunderscore (List.mem_cons_of_mem c hmem)
    rw [words_cons, hspace, ih ht hrest, if_neg hc, List.nil_append]

/-- **In the words of a name no case changes.** -/
theorem noCaseChange_words (t : Text) : NoCaseChange (words t) := by
  induction t with
  | nil => exact List.isChain_nil
  | cons c t ih =>
    rw [words_cons, noCaseChange_cons]
    rcases spaceBetween_cases (some c) t with h | h
    · -- the case does not change in the name, and underscores have none
      rw [h, List.nil_append]
      refine ⟨?_, ih⟩
      have hhead : (words t).head?.any Char.isUpper = t.head?.any Char.isUpper := by
        cases t with
        | nil => rfl
        | cons d t =>
          rw [words_cons, List.head?_cons, List.head?_cons, Option.any_some, Option.any_some]
          split
          next hd => rw [hd]; decide
          next => rfl
      have hlower : (if c = '_' then ' ' else c).isLower = c.isLower := by
        split
        next hc => rw [hc]; decide
        next => rfl
      rw [← h, spaceBetween, spaceBetween, hhead, Option.any_some, Option.any_some, hlower]
    · rw [h, List.singleton_append]
      refine ⟨spaceBetween_of_not_isUpper rfl, ?_⟩
      exact noCaseChange_cons.mpr ⟨spaceBetween_of_not_isLower rfl, ih⟩

theorem length_le_length_words (t : Text) : t.length ≤ (words t).length := by
  induction t with
  | nil => exact Nat.zero_le _
  | cons c t ih =>
    rw [words_cons, List.length_cons, List.length_cons, List.length_append]
    omega

/-- **Words are as long as the name exactly if no case changes in it.** -/
theorem length_words_eq_iff : (words t).length = t.length ↔ NoCaseChange t := by
  induction t with
  | nil => exact iff_of_true rfl List.isChain_nil
  | cons c t ih =>
    have hlength := length_le_length_words t
    rw [words_cons, noCaseChange_cons, ← ih, ← List.length_eq_zero_iff, List.length_cons,
      List.length_cons, List.length_append]
    omega

/-! ## What the words keep -/

theorem isBlank_of_isLower (h : c.isLower = true) : isBlank c = false :=
  isBlank_of_isWord (isWord_of_sameLetter h (decide_eq_true rfl))

theorem ne_underscore_of_isLower (h : c.isLower = true) : c ≠ '_' := by
  rintro rfl
  exact absurd h (by decide)

theorem stripped_append (s t : Text) : stripped (s ++ t) = stripped s ++ stripped t := by
  rw [stripped, List.map_append, List.filter_append, stripped, stripped]

theorem stripped_of_blank (h : ∀ c ∈ t, isBlank c = true) : stripped t = [] := by
  rw [stripped, List.filter_eq_nil_iff]
  intro c hc
  obtain ⟨d, hd, rfl⟩ := List.mem_map.mp hc
  simp [isBlank_toLower, h d hd]

theorem stripped_trim (t : Text) : stripped (trim t) = stripped t := by
  obtain ⟨u, v, hu, hv, ht⟩ := exists_eq_append_trim t
  conv_rhs => rw [ht, stripped_append, stripped_append, stripped_of_blank hu, stripped_of_blank hv]
  rw [List.nil_append, List.append_nil]

theorem stripped_spaceBetween (before : Option Char) (t : Text) :
    stripped (spaceBetween before t) = [] := by
  rcases spaceBetween_cases before t with h | h <;> rw [h] <;> decide

/-- **The words hold all characters of the name, in order.** -/
theorem stripped_words (t : Text) : stripped (words t) = stripped t := by
  induction t with
  | nil => rfl
  | cons c t ih =>
    have hone : stripped [if c = '_' then ' ' else c] = stripped [c] := by
      split
      next hc => rw [hc]; decide
      next => rfl
    rw [words_cons, ← List.singleton_append, stripped_append, stripped_append,
      stripped_spaceBetween, hone, ih, ← List.singleton_append (l := t), stripped_append,
      List.nil_append]

/-- A word that the words of a name begin with is what the name begins with. -/
theorem prefix_of_prefix_words {word : Text} (hword : ∀ c ∈ word, c.isLower = true)
    (h : word <+: (words t).map Char.toLower) : word <+: t.map Char.toLower := by
  induction word generalizing t with
  | nil => exact List.nil_prefix
  | cons a word ih =>
    obtain ⟨ha, hword⟩ := List.forall_mem_cons.mp hword
    cases t with
    | nil => exact h
    | cons c t =>
      rw [words_cons, List.map_cons, List.cons_prefix_cons] at h
      obtain ⟨hac, hrest⟩ := h
      have hc : c ≠ '_' := by
        rintro rfl
        rw [hac] at ha
        exact absurd ha (by decide)
      rw [if_neg hc] at hac
      rw [List.map_cons, List.cons_prefix_cons]
      refine ⟨hac, ?_⟩
      rcases spaceBetween_cases (some c) t with hspace | hspace
      · rw [hspace, List.nil_append] at hrest
        exact ih hword hrest
      · -- a space ends the word
        rw [hspace] at hrest
        cases word with
        | nil => exact List.nil_prefix
        | cons b word =>
          have hb : b = ' ' := (List.cons_prefix_cons.mp hrest).1
          have hlower := (List.forall_mem_cons.mp hword).1
          rw [hb] at hlower
          exact absurd hlower (by decide)

end Phrase
end CodeGloss
