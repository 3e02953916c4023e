import CodeGloss.Proofs.Phrase.Words
import CodeGloss.Proofs.Text.Ascii
import CodeGloss.Proofs.Text.Pieces
import Mathlib

/-! # Capitals in a phrase

A phrase gets its capitals in one of two ways.  Behind a verb the first letter of each word becomes
a capital and the others stay (`withCapitals`); without a verb the others become small
(`titled`).  In ASCII both ways change nothing but the case of letters, so they move no character;
both leave a text alone that they have been over, and neither puts a capital behind a small letter.
-/
namespace CodeGloss
namespace Phrase

open Text

variable {s t : Text}

/-! ## A capital for each word -/

/-- A word with a capital as its first letter. -/
def capitalized : Text → Text
  | [] => []
  | first :: later => capital first ++ later

theorem withCapitals_eq (t : Text) : withCapitals t = join ' ' ((split ' ' t).map capitalized) :=
  rfl

theorem withCapitals_of_not_mem (h : ' ' ∉ s) : withCapitals s = capitalized s := by
  rw [withCapitals_eq, split_of_not_mem h]
  simp [join]

theorem withCapitals_append_space (h : ' ' ∉ s) (rest : Text) :
    withCapitals (s ++ ' ' :: rest) = capitalized s ++ ' ' :: withCapitals rest := by
  have hne : (split ' ' rest).map capitalized ≠ [] := by simp [split_ne_nil]
  rw [withCapitals_eq, split_append_cons h, List.map_cons, join_cons_of_ne_nil _ _ hne,
    ← withCapitals_eq]

theorem withCapitals_join {ps : List Text} (hne : ps ≠ []) (h : ∀ p ∈ ps, ' ' ∉ p) :
    withCapitals (join ' ' ps) = join ' ' (ps.map capitalized) := by
  rw [withCapitals_eq, split_join hne h]

theorem capitalized_of_ascii (hs : IsAscii s) : capitalized s = s.modifyHead Char.toUpper := by
  cases s with
  | nil => rfl
  | cons c s =>
    rw [capitalized, capital_of_ascii (isAscii_cons.mp hs).1]
    rfl

theorem map_toLower_modifyHead (s : Text) :
    (s.modifyHead Char.toUpper).map Char.toLower = s.map Char.toLower := by
  cases s <;> simp

theorem map_toLower_capitalized (hs : IsAscii s) :
    (capitalized s).map Char.toLower = s.map Char.toLower := by
  rw [capitalized_of_ascii hs, map_toLower_modifyHead]

/-- Whatever is no letter stays out of a text when the case of its letters changes. -/
theorem not_mem_of_map_toLower_eq {mark : Char} (hmark : mark.isAlpha = false)
    (h : s.map Char.toLower = t.map Char.toLower) (ht : mark ∉ t) : mark ∉ s := by
  intro hs
  have hsmall : mark.toLower ∈ t.map Char.toLower := h ▸ List.mem_map_of_mem hs
  obtain ⟨c, hc, hmem⟩ := List.mem_map.mp hsmall
  have hcase {x : Char} (hx : x.isAlpha = false) : x.toLower = x :=
    Char.toLower_eq_of_not_isUpper fun hupper => by simp [Char.isAlpha, hupper] at hx
  have halpha : c.isAlpha = false := by
    rw [← Char.isAlpha_toLower_eq_isAlpha, hmem, Char.isAlpha_toLower_eq_isAlpha, hmark]
  rw [hcase hmark, hcase halpha] at hmem
  exact ht (hmem ▸ hc)

theorem capitalized_capitalized (hs : IsAscii s) : capitalized (capitalized s) = capitalized s := by
  have hascii := hs.of_map_toLower_eq (map_toLower_capitalized hs)
  rw [capitalized_of_ascii hascii, capitalized_of_ascii hs]
  cases s <;> simp

/-- **Nothing but the case of letters changes.** -/
theorem map_toLower_withCapitals (ht : IsAscii t) :
    (withCapitals t).map Char.toLower = t.map Char.toLower := by
  induction t using mark_induction ' ' with
  | last t h => rw [withCapitals_of_not_mem h, map_toLower_capitalized ht]
  | cut word rest h ih =>
    obtain ⟨hword, hrest⟩ := isAscii_append.mp ht
    rw [withCapitals_append_space h, List.map_append, List.map_append, List.map_cons,
      List.map_cons, map_toLower_capitalized hword, ih (isAscii_cons.mp hrest).2]

theorem withCapitals_withCapitals (ht : IsAscii t) :
    withCapitals (withCapitals t) = withCapitals t := by
  induction t using mark_induction ' ' with
  | last t h =>
    have hspace := not_mem_of_map_toLower_eq (by decide) (map_toLower_capitalized ht) h
    rw [withCapitals_of_not_mem h, withCapitals_of_not_mem hspace, capitalized_capitalized ht]
  | cut word rest h ih =>
    obtain ⟨hword, hrest⟩ := isAscii_append.mp ht
    have hspace := not_mem_of_map_toLower_eq (by decide) (map_toLower_capitalized hword) h
    rw [withCapitals_append_space h, withCapitals_append_space hspace,
      capitalized_capitalized hword, ih (isAscii_cons.mp hrest).2]

theorem noCaseChange_capitalized (hs : IsAscii s) (h : NoCaseChange s) :
    NoCaseChange (capitalized s) := by
  rw [capitalized_of_ascii hs]
  cases s with
  | nil => exact h
  | cons c s =>
    rw [List.modifyHead_cons, noCaseChange_cons]
    exact ⟨spaceBetween_of_not_isLower (by simp), (noCaseChange_cons.mp h).2⟩

theorem noCaseChange_append_space :
    NoCaseChange (s ++ ' ' :: t) ↔ NoCaseChange s ∧ NoCaseChange t := by
  rw [noCaseChange_append, noCaseChange_cons, spaceBetween_of_not_isUpper rfl,
    spaceBetween_of_not_isLower rfl]
  simp

/-- **No capital comes behind a small letter.** -/
theorem noCaseChange_withCapitals (ht : IsAscii t) (h : NoCaseChange t) :
    NoCaseChange (withCapitals t) := by
  induction t using mark_induction ' ' with
  | last t hspace =>
    rw [withCapitals_of_not_mem hspace]
    exact noCaseChange_capitalized ht h
  | cut word rest hspace ih =>
    obtain ⟨hword, hrest⟩ := isAscii_append.mp ht
    obtain ⟨hchange, hchange'⟩ := noCaseChange_append_space.mp h
    rw [withCapitals_append_space hspace, noCaseChange_append_space]
    exact ⟨noCaseChange_capitalized hword hchange, ih (isAscii_cons.mp hrest).2 hchange'⟩

/-! ## Title case -/

variable {afterLetter : Bool}

theorem titledFrom_cons_of_ascii {c : Char} (hc : c.toNat < 0x80) (t : Text) :
    titledFrom afterLetter (c :: t) =
      (if c.isAlpha && !afterLetter then c.toUpper else c.toLower) :: titledFrom c.isAlpha t := by
  rw [titledFrom, isLetter_of_ascii hc, lower_of_ascii hc, capital_of_ascii hc]
  cases halpha : c.isAlpha with
  | true => cases afterLetter <;> rfl
  | false =>
    have hupper : ¬ c.isUpper = true := by
      intro hupper
      rw [Char.isAlpha, hupper, Bool.true_or] at halpha
      cases halpha
    simp [Char.toLower_eq_of_not_isUpper hupper]

/-- **Nothing but the case of letters changes.** -/
theorem map_toLower_titledFrom (ht : IsAscii t) :
    (titledFrom afterLetter t).map Char.toLower = t.map Char.toLower := by
  induction t generalizing afterLetter with
  | nil => rfl
  | cons c t ih =>
    obtain ⟨hc, ht⟩ := isAscii_cons.mp ht
    rw [titledFrom_cons_of_ascii hc, List.map_cons, List.map_cons, ih ht]
    split <;> simp

/-- The case of letters before makes no difference. -/
theorem titledFrom_map_toLower (ht : IsAscii t) :
    titledFrom afterLetter (t.map Char.toLower) = titledFrom afterLetter t := by
  induction t generalizing afterLetter with
  | nil => rfl
  | cons c t ih =>
    obtain ⟨hc, ht⟩ := isAscii_cons.mp ht
    have hsmall := (toNat_toLower_lt_iff c).mpr hc
    rw [List.map_cons, titledFrom_cons_of_ascii hsmall, titledFrom_cons_of_ascii hc]
    simp [ih ht]

theorem titled_of_map_toLower_eq (ht : IsAscii t) (h : s.map Char.toLower = t.map Char.toLower) :
    titled s = titled t := by
  rw [titled, ← titledFrom_map_toLower (ht.of_map_toLower_eq h), h, titledFrom_map_toLower ht,
    titled]

theorem titled_titled (ht : IsAscii t) : titled (titled t) = titled t :=
  titled_of_map_toLower_eq ht (map_toLower_titledFrom ht)

/-- **No capital comes behind a small letter.** -/
theorem noCaseChange_titledFrom (ht : IsAscii t) : NoCaseChange (titledFrom afterLetter t) := by
  induction t generalizing afterLetter with
  | nil => exact List.isChain_nil
  | cons c t ih =>
    obtain ⟨hc, ht⟩ := isAscii_cons.mp ht
    rw [titledFrom_cons_of_ascii hc, noCaseChange_cons]
    refine ⟨?_, ih ht⟩
    cases halpha : c.isAlpha with
    | true =>
      -- behind a letter every letter is small
      refine spaceBetween_of_not_isUpper ?_
      cases t with
      | nil => rfl
      | cons d t => simp [titledFrom_cons_of_ascii (isAscii_cons.mp ht).1]
    | false => exact spaceBetween_of_not_isLower (by simp [halpha])

end Phrase
end CodeGloss
