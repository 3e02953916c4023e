import CodeGloss.Proofs.Pattern.LetterCase

/-! # ASCII texts

In general a letter can have several letters as its capital form, or take more than one octet.  In
ASCII every letter has one small and one capital form, the two are told apart by their code points,
and every character is one octet.  So a change of case moves nothing in an ASCII text.
-/
namespace CodeGloss
namespace Text

/-- Whether a text has ASCII characters only. -/
def IsAscii (t : Text) : Prop :=
  ∀ c ∈ t, c.toNat < 0x80

instance (t : Text) : Decidable (IsAscii t) :=
  List.decidableBAll (fun c : Char => c.toNat < 0x80) t

theorem isAscii_append {s t : Text} : IsAscii (s ++ t) ↔ IsAscii s ∧ IsAscii t :=
  List.forall_mem_append

theorem isAscii_cons {c : Char} {t : Text} : IsAscii (c :: t) ↔ c.toNat < 0x80 ∧ IsAscii t :=
  List.forall_mem_cons

theorem isAscii_of_isLower {t : Text} (ht : ∀ c ∈ t, c.isLower = true) : IsAscii t := by
  intro c hc
  have hbounds := bounds_of_isLower (ht c hc)
  omega

/-! ## The characters of ASCII -/

section Characters

variable {c : Char}

/-- The tables of letters, for the characters of ASCII. -/
theorem ascii_forms : ∀ n < 0x80, lower (Char.ofNat n) = [(Char.ofNat n).toLower] ∧
    capital (Char.ofNat n) = [(Char.ofNat n).toUpper] ∧
    isLetter (Char.ofNat n) = (Char.ofNat n).isAlpha := by
  decide +kernel

theorem lower_of_ascii (h : c.toNat < 0x80) : lower c = [c.toLower] := by
  simpa using (ascii_forms c.toNat h).1

theorem capital_of_ascii (h : c.toNat < 0x80) : capital c = [c.toUpper] := by
  simpa using (ascii_forms c.toNat h).2.1

theorem isLetter_of_ascii (h : c.toNat < 0x80) : isLetter c = c.isAlpha := by
  simpa using (ascii_forms c.toNat h).2.2

theorem utf8Size_of_ascii (h : c.toNat < 0x80) : c.utf8Size = 1 := by
  have hsize : ∀ n < 0x80, (Char.ofNat n).utf8Size = 1 := by decide +kernel
  simpa using hsize c.toNat h

/-- A change of case leads to no other characters than those of ASCII, and from no other ones. -/
theorem toNat_toLower_lt_iff (c : Char) : c.toLower.toNat < 0x80 ↔ c.toNat < 0x80 := by
  rcases toLower_cases c with h | ⟨-, hhigh, hsmall⟩
  · rw [h]
  · omega

end Characters

section Texts

variable {s t : Text}

theorem lowercase_of_ascii (ht : IsAscii t) : lowercase t = t.map Char.toLower := by
  induction t with
  | nil => rfl
  | cons c t ih =>
    obtain ⟨hc, ht⟩ := isAscii_cons.mp ht
    have hrest := ih ht
    rw [lowercase] at hrest
    rw [lowercase, List.flatMap_cons, lower_of_ascii hc, hrest]
    rfl

/-- Texts that differ in the case of letters only are ASCII texts alike. -/
theorem IsAscii.of_map_toLower_eq (ht : IsAscii t) (h : s.map Char.toLower = t.map Char.toLower) :
    IsAscii s := by
  intro c hc
  have hsmall : c.toLower ∈ t.map Char.toLower := h ▸ List.mem_map_of_mem hc
  obtain ⟨d, hd, hdc⟩ := List.mem_map.mp hsmall
  rw [← toNat_toLower_lt_iff, ← hdc, toNat_toLower_lt_iff]
  exact ht d hd

theorem trim_map_toLower (t : Text) : trim (t.map Char.toLower) = (trim t).map Char.toLower := by
  have hblank : isBlank ∘ Char.toLower = isBlank := funext isBlank_toLower
  simp only [trim, trimEnd, dropEndWhile, trimStart, List.dropWhile_map, ← List.map_reverse, hblank]

/-- Whether there is something to trim does not depend on the case of letters. -/
theorem trim_eq_self_of_map_toLower_eq (h : s.map Char.toLower = t.map Char.toLower)
    (ht : trim t = t) : trim s = s := by
  refine (trim_isInfix s).eq_of_length ?_
  rw [← List.length_map Char.toLower, ← trim_map_toLower, h, trim_map_toLower, ht, ← h,
    List.length_map]

end Texts

end Text
end CodeGloss
