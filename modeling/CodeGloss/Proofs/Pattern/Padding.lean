import CodeGloss.Proofs.Pattern.LineEnds
import CodeGloss.Proofs.Pattern.Places

/-! # Patterns and blanks at the ends of a text

Blanks in front of a text are passed over by a pattern that begins with another character.  Blanks
behind it could be taken by a run, but then the pieces behind the run must be found in the blanks as
well.  If one of them needs a character that is not blank, nothing is; so a pattern in which every
piece that takes blanks has such a piece behind it (`stopsAtBlanks`) has the same occurrences
whether there are blanks behind the text or not (`occurrences_append_blanks`).

A word with a gap behind it is different: the gap may be what stands behind the text.  If its first
letter does not come again in the word, it is found once more if and only if there are blanks behind
the text and the text ends with the word (`count_spacedWord_append`).
-/
namespace CodeGloss

open Text

namespace Text

/-- Whether the text ends with the word, but for case. -/
def endsWith (word t : Text) : Bool :=
  (word.map fold).isSuffixOf (t.map fold)

theorem endsWith_iff {word t : Text} : endsWith word t = true ↔ word.map fold <:+ t.map fold :=
  List.isSuffixOf_iff_suffix

section EndsWith

variable {word t : Text} {c : Char}

theorem eq_nil_of_endsWith_nil (h : endsWith word [] = true) : word = [] := by
  simpa using endsWith_iff.mp h

theorem endsWith_cons_iff : endsWith word (c :: t) = true ↔
    (c :: t).map fold = word.map fold ∨ endsWith word t = true := by
  rw [endsWith_iff, endsWith_iff, List.map_cons, List.suffix_cons_iff, eq_comm]

/-- Behind its first character no word ends with itself. -/
theorem not_endsWith_of_map_fold_eq (h : (c :: t).map fold = word.map fold) :
    ¬ endsWith word t = true := by
  intro hends
  have hle := (endsWith_iff.mp hends).length_le
  have hlength := congrArg List.length h
  simp only [List.length_map, List.length_cons] at hle hlength
  omega

end EndsWith

end Text

namespace Pattern

/-! ## Patterns that stop at blanks -/

/-- Whether some piece needs a character that is not blank. -/
def needsFilled : List Piece → Bool
  | [] => false
  | .edge :: later | .any _ :: later => needsFilled later
  | .one k :: later | .some k :: later => !k.hasBlank || needsFilled later

/-- Whether every piece that may take a blank has a piece behind it that needs another character. -/
def stopsAtBlanks : List Piece → Bool
  | [] => true
  | .edge :: later => stopsAtBlanks later
  | .one k :: later | .any k :: later | .some k :: later =>
    (!k.hasBlank || needsFilled later) && stopsAtBlanks later

/-- How pieces match a text with blanks behind it: as they match the text. -/
def IgnoresBehind (blanks : Text) (next : Option Char → Text → Option Nat) : Prop :=
  ∀ before t, next before (t ++ blanks) = next before t

/-- Pieces that match in no blank text. -/
def RefusesBlanks (next : Option Char → Text → Option Nat) : Prop :=
  ∀ before blanks, (∀ c ∈ blanks, isBlank c = true) → next before blanks = none

section Blanks

variable {k : Kind} {next : Option Char → Text → Option Nat} {pieces later : List Piece}
  {blanks : Text} {before : Option Char} {c : Char}

theorem runLength_refusesBlanks (h : RefusesBlanks next) : RefusesBlanks (runLength k next) := by
  intro before blanks hblanks
  induction blanks generalizing before with
  | nil => exact h before [] hblanks
  | cons c blanks ih =>
    have hstop := h before (c :: blanks) hblanks
    rw [runLength, ih _ (List.forall_mem_cons.mp hblanks).2, hstop, ite_self]

/-- Pieces of which one needs a character that is not blank are not found in blanks. -/
theorem matchLength_refusesBlanks (h : needsFilled pieces = true) :
    RefusesBlanks (matchLength pieces) := by
  induction pieces with
  | nil => cases h
  | cons piece later ih =>
    intro before blanks hblanks
    cases piece with
    | edge => rw [matchLength, ih h before blanks hblanks, ite_self]
    | any k => exact runLength_refusesBlanks (ih h) before blanks hblanks
    | one k =>
      cases blanks with
      | nil => rfl
      | cons c blanks =>
        obtain ⟨hc, hblanks⟩ := List.forall_mem_cons.mp hblanks
        rw [matchLength]
        rcases Bool.or_eq_true_iff.mp h with hk | hlater
        · rw [has_eq_false_of_not_hasBlank (by simpa using hk) hc, if_neg Bool.false_ne_true]
        · rw [ih hlater _ blanks hblanks, Option.map_none, ite_self]
    | some k =>
      cases blanks with
      | nil => rfl
      | cons c blanks =>
        obtain ⟨hc, hblanks⟩ := List.forall_mem_cons.mp hblanks
        rw [matchLength]
        rcases Bool.or_eq_true_iff.mp h with hk | hlater
        · rw [has_eq_false_of_not_hasBlank (by simpa using hk) hc, if_neg Bool.false_ne_true]
        · rw [runLength_refusesBlanks (ih hlater) _ blanks hblanks, Option.map_none, ite_self]

theorem hasBlank_eq_false_or_refusesBlanks (h : (!k.hasBlank || needsFilled later) = true) :
    k.hasBlank = false ∨ RefusesBlanks (matchLength later) :=
  (Bool.or_eq_true_iff.mp h).imp (by simp) matchLength_refusesBlanks

/-- A run stops at the blanks behind a text, if it takes none or nothing is found behind it there. -/
theorem runLength_ignoresBehind (hblanks : ∀ c ∈ blanks, isBlank c = true)
    (hnext : IgnoresBehind blanks next) (hrun : k.hasBlank = false ∨ RefusesBlanks next) :
    IgnoresBehind blanks (runLength k next) := by
  intro before t
  induction t generalizing before with
  | nil =>
    rw [List.nil_append]
    rcases hrun with hk | hrefuses
    · cases blanks with
      | nil => rfl
      | cons c blanks =>
        have hc := has_eq_false_of_not_hasBlank hk (List.forall_mem_cons.mp hblanks).1
        rw [runLength, runLength, if_neg (by simp [hc])]
        exact hnext before []
    · have hnone := runLength_refusesBlanks (k := k) hrefuses
      rw [hnone before blanks hblanks, hnone before [] (by simp)]
  | cons c t ih =>
    have hstop := hnext before (c :: t)
    rw [List.cons_append] at hstop ⊢
    rw [runLength, runLength, ih, hstop]

/-- **The check is sound**: pieces that pass it take nothing of the blanks behind a text. -/
theorem matchLength_ignoresBehind (h : stopsAtBlanks pieces = true)
    (hblanks : ∀ c ∈ blanks, isBlank c = true) : IgnoresBehind blanks (matchLength pieces) := by
  induction pieces with
  | nil => exact fun _ _ => rfl
  | cons piece later ih =>
    intro before t
    cases piece with
    | edge =>
      have hedge : isEdge before (t ++ blanks).head? = isEdge before t.head? := by
        cases t with
        | cons c t => rfl
        | nil =>
          cases blanks with
          | nil => rfl
          | cons c blanks =>
            have hc := isWord_of_isBlank (List.forall_mem_cons.mp hblanks).1
            simp [isEdge, isWord?, hc]
      rw [matchLength, matchLength, hedge, ih h]
    | any k =>
      obtain ⟨hrun, hlater⟩ := Bool.and_eq_true_iff.mp h
      exact runLength_ignoresBehind hblanks (ih hlater) (hasBlank_eq_false_or_refusesBlanks hrun) before t
    | one k =>
      obtain ⟨hrun, hlater⟩ := Bool.and_eq_true_iff.mp h
      cases t with
      | nil =>
        have hneeds : needsFilled (.one k :: later) = true := hrun
        exact matchLength_refusesBlanks hneeds before blanks hblanks
      | cons c t => rw [List.cons_append, matchLength, matchLength, ih hlater]
    | some k =>
      obtain ⟨hrun, hlater⟩ := Bool.and_eq_true_iff.mp h
      cases t with
      | nil =>
        have hneeds : needsFilled (.some k :: later) = true := hrun
        exact matchLength_refusesBlanks hneeds before blanks hblanks
      | cons c t =>
        rw [List.cons_append, matchLength, matchLength,
          runLength_ignoresBehind hblanks (ih hlater) (hasBlank_eq_false_or_refusesBlanks hrun)]

end Blanks

/-! ## Occurrences -/

/-- Whether the pattern stops at blanks in all its alternatives. -/
def endsBeforeBlanks (p : Pattern) : Bool :=
  p.alternatives.all stopsAtBlanks

section Occurrences

variable {p : Pattern} {blanks : Text}

theorem lengthAt_ignoresBehind (h : p.endsBeforeBlanks = true)
    (hblanks : ∀ c ∈ blanks, isBlank c = true) : IgnoresBehind blanks p.lengthAt := by
  intro before t
  obtain ⟨alternatives⟩ := p
  simp only [lengthAt]
  induction alternatives with
  | nil => rfl
  | cons pieces later ih =>
    obtain ⟨hpieces, hlater⟩ := Bool.and_eq_true_iff.mp h
    rw [List.findSome?_cons, List.findSome?_cons, matchLength_ignoresBehind hpieces hblanks,
      ih hlater]

/-- Nothing is found in blanks. -/
theorem occurrencesFrom_blanks (h : p.endsBeforeBlanks = true)
    (hblanks : ∀ c ∈ blanks, isBlank c = true) (taken : Nat) (before : Option Char) :
    p.occurrencesFrom taken before blanks = [] := by
  induction blanks generalizing taken before with
  | nil => exact occurrencesFrom_nil p taken before
  | cons c blanks ih =>
    have hbehind := ih (List.forall_mem_cons.mp hblanks).2
    cases taken with
    | succ taken => exact hbehind taken (some c)
    | zero =>
      refine (occurrencesFrom_cons_of_ne fun n hn => ?_).trans (hbehind 0 (some c))
      have hnil := lengthAt_ignoresBehind h hblanks before []
      rw [List.nil_append, hn] at hnil
      exact Nat.not_succ_le_zero n (lengthAt_le_length hnil.symm)

theorem occurrencesFrom_append_blanks (h : p.endsBeforeBlanks = true)
    (hblanks : ∀ c ∈ blanks, isBlank c = true) (taken : Nat) (before : Option Char) (t : Text) :
    p.occurrencesFrom taken before (t ++ blanks) = p.occurrencesFrom taken before t := by
  induction t generalizing taken before with
  | nil => rw [List.nil_append, occurrencesFrom_blanks h hblanks, occurrencesFrom_nil]
  | cons c t ih =>
    have hlength := lengthAt_ignoresBehind h hblanks before (c :: t)
    rw [List.cons_append] at hlength ⊢
    cases taken with
    | succ taken => rw [occurrencesFrom, occurrencesFrom, ih]
    | zero =>
      rw [occurrencesFrom, occurrencesFrom, hlength]
      split
      next n hn =>
        have hle : n ≤ t.length := Nat.le_of_succ_le_succ (lengthAt_le_length hn)
        rw [ih, List.take_succ_cons, List.take_append_of_le_length hle, List.take_succ_cons]
      next => exact ih 0 (some c)

/-- **Blanks behind a text change no occurrence** of a pattern that stops at them. -/
theorem occurrences_append_blanks (h : p.endsBeforeBlanks = true)
    (hblanks : ∀ c ∈ blanks, isBlank c = true) (t : Text) :
    p.occurrences (t ++ blanks) = p.occurrences t :=
  occurrencesFrom_append_blanks h hblanks 0 none t

theorem count_append_blanks (h : p.endsBeforeBlanks = true)
    (hblanks : ∀ c ∈ blanks, isBlank c = true) (t : Text) : p.count (t ++ blanks) = p.count t := by
  rw [count, occurrences_append_blanks h hblanks, count]

theorem count_blanks_append (h : p.partedByComments = true)
    (hblanks : ∀ c ∈ blanks, isBlank c = true) (t : Text) : p.count (blanks ++ t) = p.count t := by
  rw [count, occurrences_blanks_append h hblanks, count]

end Occurrences

/-! ## A word with a gap behind it -/

/-- A word and a gap. -/
def spacedWord (word : String) : List Piece :=
  spell word ++ [gap]

/-- Whether a word is made for this: it has no blank, and its first letter comes once. -/
def IsSpaceable (word : String) : Prop :=
  (word.toList.all fun c => !isBlank c) = true ∧ beginsOnce (spacedWord word) = true

instance (word : String) : Decidable (IsSpaceable word) :=
  inferInstanceAs (Decidable (_ ∧ _))

section SpacedWord

variable {blanks letters t : Text} {before : Option Char} {word : String}

theorem isSome_gap (before : Option Char) (c : Char) (t : Text) :
    (matchLength [gap] before (c :: t)).isSome = isBlank c := by
  have hrun (before : Option Char) (t : Text) : (runLength .blank (matchLength []) before t).isSome :=
    isSome_runLength (fun _ _ => rfl) before t
  rw [gap, matchLength]
  cases hc : isBlank c with
  | true => rw [if_pos (show Kind.blank.has c = true from hc), Option.isSome_map, hrun]
  | false => rw [if_neg (show ¬ Kind.blank.has c = true by simp [Kind.has, hc]), Option.isSome_none]

/-- **Letters with a gap behind them** match once more if there are blanks behind the text: when the
text is the letters. -/
theorem toNat_isSome_letters (hletters : ∀ c ∈ letters, isBlank c = false)
    (hblanks : ∀ c ∈ blanks, isBlank c = true) (before : Option Char) (t : Text) :
    (matchLength (letters.map (fun c => .one (.letter c)) ++ [gap]) before (t ++ blanks)).isSome.toNat =
      (matchLength (letters.map (fun c => .one (.letter c)) ++ [gap]) before t).isSome.toNat +
        if blanks ≠ [] ∧ t.map fold = letters.map fold then 1 else 0 := by
  induction letters generalizing before t with
  | nil =>
    rw [List.map_nil, List.nil_append]
    cases t with
    | cons c t => simp [isSome_gap]
    | nil =>
      cases blanks with
      | nil => rfl
      | cons c blanks =>
        have hc := (List.forall_mem_cons.mp hblanks).1
        rw [List.nil_append, isSome_gap, hc]
        rfl
  | cons a letters ih =>
    obtain ⟨ha, hletters⟩ := List.forall_mem_cons.mp hletters
    rw [List.map_cons, List.cons_append]
    cases t with
    | nil =>
      have hrefuses : matchLength (.one (.letter a) :: (letters.map (fun c => .one (.letter c)) ++ [gap]))
          before blanks = none := by
        cases blanks with
        | nil => rfl
        | cons c blanks =>
          have hfilled : Kind.hasBlank (.letter a) = false := ha
          have hc := has_eq_false_of_not_hasBlank hfilled (List.forall_mem_cons.mp hblanks).1
          rw [matchLength, hc, if_neg Bool.false_ne_true]
      rw [List.nil_append, hrefuses]
      simp [matchLength]
    | cons c t =>
      rw [List.cons_append, matchLength, matchLength]
      by_cases hc : Kind.has (.letter a) c = true
      · have hfold : fold c = fold a := (of_decide_eq_true hc).symm
        rw [if_pos hc, if_pos hc, Option.isSome_map, Option.isSome_map, ih hletters]
        simp [hfold]
      · have hfold : fold c ≠ fold a := fun h => hc (decide_eq_true h.symm)
        rw [if_neg hc, if_neg hc]
        simp [hfold]

theorem IsSpaceable.ne_nil (h : IsSpaceable word) : word.toList ≠ [] := by
  intro hnil
  have honce := h.2
  rw [spacedWord, spell, hnil] at honce
  cases honce

theorem IsSpaceable.isBlank_eq_false (h : IsSpaceable word) :
    ∀ c ∈ word.toList, isBlank c = false := by
  simpa using h.1

theorem IsSpaceable.beginsFilled (h : IsSpaceable word) :
    beginsFilled (spacedWord word) = true := by
  obtain ⟨a, letters, hletters⟩ := List.exists_cons_of_ne_nil h.ne_nil
  have ha : isBlank a = false := h.isBlank_eq_false a (hletters ▸ List.mem_cons_self)
  rw [spacedWord, spell, hletters]
  simp [Pattern.beginsFilled, Kind.hasBlank, ha]

theorem placesFrom_blanks (hword : IsSpaceable word) (hblanks : ∀ c ∈ blanks, isBlank c = true)
    (before : Option Char) : placesFrom ⟨[spacedWord word]⟩ before blanks = 0 := by
  induction blanks generalizing before with
  | nil => rfl
  | cons c blanks ih =>
    obtain ⟨hc, hblanks⟩ := List.forall_mem_cons.mp hblanks
    rw [placesFrom, lengthAt_singleton, matchLength_of_beginsFilled hword.beginsFilled hc,
      ih hblanks]
    rfl

/-- **A word with a gap behind it is found once more** if there are blanks behind a text that ends
with the word. -/
theorem placesFrom_spacedWord_append (hword : IsSpaceable word)
    (hblanks : ∀ c ∈ blanks, isBlank c = true) (before : Option Char) (t : Text) :
    placesFrom ⟨[spacedWord word]⟩ before (t ++ blanks) =
      placesFrom ⟨[spacedWord word]⟩ before t +
        if blanks ≠ [] ∧ endsWith word.toList t = true then 1 else 0 := by
  induction t generalizing before with
  | nil =>
    rw [List.nil_append, placesFrom_blanks hword hblanks,
      if_neg fun h => hword.ne_nil (eq_nil_of_endsWith_nil h.2)]
    rfl
  | cons c t ih =>
    have hplace := toNat_isSome_letters hword.isBlank_eq_false hblanks before (c :: t)
    rw [← spell, ← spacedWord] at hplace
    rw [List.cons_append] at hplace ⊢
    rw [placesFrom, placesFrom, lengthAt_singleton, lengthAt_singleton, hplace, ih]
    simp only [endsWith_cons_iff]
    -- if the text is the word, what is left of it is too short to end with the word
    have hnot : ¬ ((c :: t).map fold = word.toList.map fold ∧ endsWith word.toList t = true) :=
      fun h => not_endsWith_of_map_fold_eq h.1 h.2
    by_cases hnone : blanks = []
    · simp [hnone]
    · by_cases hwhole : (c :: t).map fold = word.toList.map fold
      · have hshort : endsWith word.toList t = false := by simpa [hwhole] using hnot
        simp only [ne_eq, hnone, not_false_eq_true, hwhole, hshort, true_and, true_or, if_true,
          Bool.false_eq_true, if_false]
        omega
      · simp only [ne_eq, hnone, not_false_eq_true, hwhole, true_and, false_or, if_false]
        omega

theorem count_spacedWord_append (hword : IsSpaceable word)
    (hblanks : ∀ c ∈ blanks, isBlank c = true) (t : Text) :
    count ⟨[spacedWord word]⟩ (t ++ blanks) = count ⟨[spacedWord word]⟩ t +
      if blanks ≠ [] ∧ endsWith word.toList t = true then 1 else 0 := by
  rw [count_eq_places hword.2, count_eq_places hword.2]
  exact placesFrom_spacedWord_append hword hblanks none t

end SpacedWord

end Pattern
end CodeGloss
