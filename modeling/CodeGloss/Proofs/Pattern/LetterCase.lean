import CodeGloss.Proofs.Pattern.Matching
import CodeGloss.Proofs.Text.Segments

/-! # Patterns and the case of letters

A pattern asks of a character only whether it is of some kind.  So a change of characters that keeps
all kinds changes no match: the occurrences in the changed text are the changed occurrences, one for
one and at the same places (`occurrences_map`).

Writing the capital letters of ASCII small is such a change (`keepsKinds_toLower`).  It takes no
character out of a word and puts none into one, and a piece that asks for a letter asks for it in
either case.
-/
namespace CodeGloss

/-! ## Small letters for capital ones -/

namespace Text

/-- A character is left as it is, or it is a capital letter and made small. -/
theorem toLower_cases (c : Char) :
    c.toLower = c ∨ 0x41 ≤ c.toNat ∧ c.toNat ≤ 0x5A ∧ c.toLower.toNat = c.toNat + 0x20 := by
  unfold Char.toLower
  split
  next h =>
    have hlow : 0x41 ≤ c.toNat := h.1
    have hhigh : c.toNat ≤ 0x5A := h.2
    refine Or.inr ⟨hlow, hhigh, ?_⟩
    show (c.val + ('a'.val - 'A'.val)).toNat = c.toNat + 0x20
    rw [UInt32.toNat_add]
    show (c.toNat + 32) % 2 ^ 32 = c.toNat + 0x20
    omega
  next => exact Or.inl rfl

/-- Capital and small letters belong to words alike. -/
theorem isWord_toLower (c : Char) : isWord c.toLower = isWord c := by
  rcases toLower_cases c with h | ⟨hlow, hhigh, hsmall⟩
  · rw [h]
  · obtain ⟨hcapital, hletter⟩ := letters_inside_words.1 (c.toNat - 0x41) (by omega)
    rw [Nat.add_sub_cancel' hlow] at hcapital
    rw [show 0x61 + (c.toNat - 0x41) = c.toLower.toNat by omega] at hletter
    exact hletter.trans hcapital.symm

/-- What is in no word has no case. -/
theorem toLower_of_not_isWord {c : Char} (h : isWord c = false) : c.toLower = c := by
  rcases toLower_cases c with hc | ⟨hlow, hhigh, -⟩
  · exact hc
  · have hcapital := (letters_inside_words.1 (c.toNat - 0x41) (by omega)).1
    rw [Nat.add_sub_cancel' hlow] at hcapital
    exact absurd (h.symm.trans hcapital) Bool.false_ne_true

theorem isBlank_toLower (c : Char) : isBlank c.toLower = isBlank c := by
  cases hword : isWord c with
  | false => rw [toLower_of_not_isWord hword]
  | true =>
    rw [isBlank_of_isWord hword, isBlank_of_isWord ((isWord_toLower c).trans hword)]

/-- A mark outside of words is where it was. -/
theorem toLower_eq_iff {mark : Char} (hmark : isWord mark = false) (c : Char) :
    c.toLower = mark ↔ c = mark := by
  constructor
  · intro h
    have hword : isWord c = false := by rw [← isWord_toLower, h, hmark]
    rwa [toLower_of_not_isWord hword] at h
  · rintro rfl
    exact toLower_of_not_isWord hmark

theorem fold_toLower (c : Char) : fold c.toLower = fold c := by
  rcases toLower_cases c with h | ⟨hlow, hhigh, hsmall⟩
  · rw [h]
  · have hlower : c.toLower.isLower = true := by
      refine Bool.and_eq_true_iff.mpr ⟨decide_eq_true ?_, decide_eq_true ?_⟩
      · exact UInt32.le_iff_toNat_le.mpr (show 0x61 ≤ c.toLower.toNat by omega)
      · exact UInt32.le_iff_toNat_le.mpr (show c.toLower.toNat ≤ 0x7A by omega)
    have hs : c ≠ Char.ofNat 0x17F := by
      rintro rfl
      exact absurd hhigh (by decide)
    have hk : c ≠ Char.ofNat 0x212A := by
      rintro rfl
      exact absurd hhigh (by decide)
    rw [fold_of_isLower hlower, fold, if_neg hs, if_neg hk]

end Text

namespace Pattern

open Text

/-! ## Changes of characters -/

/-- Whether a change of characters takes every character to one of the same kinds. -/
def KeepsKinds (f : Char → Char) : Prop :=
  ∀ (k : Kind) (c : Char), k.has (f c) = k.has c

/-- **No kind of characters depends on the case of ASCII letters.** -/
theorem keepsKinds_toLower : KeepsKinds Char.toLower := by
  intro k c
  cases k with
  | letter a => rw [Kind.has, Kind.has, sameLetter, sameLetter, fold_toLower]
  | blank => exact isBlank_toLower c
  | word => exact isWord_toLower c
  | inLine =>
    have hfeed : c.toLower = '\n' ↔ c = '\n' := toLower_eq_iff (by decide) c
    rw [Kind.has, Kind.has, Bool.eq_iff_iff, bne_iff_ne, bne_iff_ne, Ne, hfeed]

section Changes

variable {f : Char → Char}

theorem isWord?_map (hf : KeepsKinds f) (c : Option Char) : isWord? (c.map f) = isWord? c := by
  cases c with
  | none => rfl
  | some c => exact hf .word c

theorem runLength_map (hf : KeepsKinds f) (k : Kind) {next : Option Char → Text → Option Nat}
    (hnext : ∀ before t, next (before.map f) (t.map f) = next before t) (before : Option Char)
    (t : Text) : runLength k next (before.map f) (t.map f) = runLength k next before t := by
  induction t generalizing before with
  | nil => exact hnext before []
  | cons c rest ih =>
    have hstop := hnext before (c :: rest)
    have hrun := ih (some c)
    rw [List.map_cons] at hstop ⊢
    rw [Option.map_some] at hrun
    rw [runLength, runLength, hf k c, hrun, hstop]

/-- **Pieces match in the changed text as they do in the text.** -/
theorem matchLength_map (hf : KeepsKinds f) (pieces : List Piece) (before : Option Char)
    (t : Text) : matchLength pieces (before.map f) (t.map f) = matchLength pieces before t := by
  induction pieces generalizing before t with
  | nil => rw [matchLength, matchLength]
  | cons piece later ih =>
    cases piece with
    | edge =>
      have hedge : isEdge (before.map f) (t.map f).head? = isEdge before t.head? := by
        rw [List.head?_map, isEdge, isEdge, isWord?_map hf, isWord?_map hf]
      rw [matchLength, matchLength, hedge, ih]
    | any k =>
      rw [matchLength, matchLength]
      exact runLength_map hf k ih before t
    | one k =>
      cases t with
      | nil => rfl
      | cons c rest =>
        have hlater := ih (some c) rest
        rw [Option.map_some] at hlater
        rw [List.map_cons, matchLength, matchLength, hf k c, hlater]
    | some k =>
      cases t with
      | nil => rfl
      | cons c rest =>
        have hrun := runLength_map hf k ih (some c) rest
        rw [Option.map_some] at hrun
        rw [List.map_cons, matchLength, matchLength, hf k c, hrun]

theorem lengthAt_map (hf : KeepsKinds f) (p : Pattern) (before : Option Char) (t : Text) :
    p.lengthAt (before.map f) (t.map f) = p.lengthAt before t := by
  simp only [lengthAt, matchLength_map hf]

theorem occurrencesFrom_map (hf : KeepsKinds f) (p : Pattern) (taken : Nat) (before : Option Char)
    (t : Text) :
    p.occurrencesFrom taken (before.map f) (t.map f) =
      (p.occurrencesFrom taken before t).map (List.map f) := by
  induction t generalizing taken before with
  | nil => rw [List.map_nil, occurrencesFrom_nil, occurrencesFrom_nil, List.map_nil]
  | cons c rest ih =>
    have hrest (taken : Nat) := ih taken (some c)
    simp only [Option.map_some] at hrest
    have hlength := lengthAt_map hf p before (c :: rest)
    rw [List.map_cons] at hlength ⊢
    cases taken with
    | succ taken => rw [occurrencesFrom, occurrencesFrom, hrest]
    | zero =>
      rw [occurrencesFrom, occurrencesFrom, hlength]
      split
      next n _ => rw [hrest, List.map_cons, List.map_take, List.map_cons]
      next => exact hrest 0

/-- **The occurrences in the changed text are the changed occurrences.** -/
theorem occurrences_map (hf : KeepsKinds f) (p : Pattern) (t : Text) :
    p.occurrences (t.map f) = (p.occurrences t).map (List.map f) :=
  occurrencesFrom_map hf p 0 none t

theorem count_map (hf : KeepsKinds f) (p : Pattern) (t : Text) :
    p.count (t.map f) = p.count t := by
  rw [count, occurrences_map hf, List.length_map, count]

end Changes

end Pattern
end CodeGloss
