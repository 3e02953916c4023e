import CodeGloss.LineKind
import CodeGloss.Proofs.Text.Pieces
import CodeGloss.Proofs.Text.Trim

/-! # The characters of remarks

A remark about a line is one line: none of its characters stands before the space, so it has no line
feed and no carriage return (`le_toNat_of_mem_remarkOn?`).  Most remarks are fixed texts; the two
about definitions hold a name, either as it stands or as a phrase, and a name is a word.  Making a
phrase of a name adds spaces, the letters of a verb and letters in their other case, and all of these
are told from a line feed by their code points (`mem_ofName`).
-/
namespace CodeGloss

/-! ## Letters in their other case -/

namespace Text

theorem toNat_ofNat_of_isValidChar {n : Nat} (h : n.isValidChar) : (Char.ofNat n).toNat = n := by
  rw [Char.ofNat, dif_pos h]
  rfl

/-- What a letter can be in its other case: a character that stands not before `A` and is not
blank. -/
structure IsCaseForm (x : Char) : Prop where
  le_toNat : 0x41 ≤ x.toNat
  isBlank_eq_false : isBlank x = false

/-- The images in the tables of single letters are characters that stand not before `A`, and no blank
is among them. -/
theorem image_bounds : ∀ r ∈ smallForms ++ capitalForms,
    0x41 ≤ r.image ∧ (r.image + (r.last - r.first) < 0xD800 ∨
      0xDFFF < r.image ∧ r.image + (r.last - r.first) < 0x110000) ∧
    ∀ b ∈ blanks.ranges, r.image + (r.last - r.first) < b.1 ∨ b.2 < r.image := by
  decide +kernel

/-- The images in the table of long forms are characters that stand not before `A`, and no blank is
among them. -/
theorem long_image_bounds : ∀ entry ∈ longCapitalForms, ∀ n ∈ entry.2,
    0x41 ≤ n ∧ n.isValidChar ∧ CharSet.covers blanks.ranges n = false := by
  decide +kernel

theorem isCaseForm_of_image? {rs : List CaseRun} (hrs : rs ⊆ smallForms ++ capitalForms)
    {n m : Nat} (h : CaseRun.image? rs n = some m) : IsCaseForm (Char.ofNat m) := by
  obtain ⟨r, hr, hfirst, hlast, rfl⟩ := CaseRun.exists_of_image? h
  obtain ⟨hlow, hvalid, hblanks⟩ := image_bounds r (hrs hr)
  have hchar : (r.image + (n - r.first)).isValidChar := by
    rcases hvalid with hv | ⟨hv, hv'⟩
    · exact Or.inl (by omega)
    · exact Or.inr ⟨by omega, by omega⟩
  have hcode := toNat_ofNat_of_isValidChar hchar
  refine ⟨by omega, ?_⟩
  by_contra hblank
  obtain ⟨b, hb, hbfirst, hblast⟩ := CharSet.exists_of_covers (Bool.of_not_eq_false hblank)
  rw [hcode] at hbfirst hblast
  rcases hblanks b hb with hbelow | habove <;> omega

/-- The characters of a small form: the letter itself, or forms of a letter in its other case. -/
theorem mem_lower {x c : Char} (h : x ∈ lower c) : x = c ∨ IsCaseForm x := by
  unfold lower at h
  split at h
  · rcases List.mem_pair.mp h with rfl | rfl
    · exact Or.inr ⟨by decide, by decide⟩
    · exact Or.inr ⟨by decide, by decide⟩
  · split at h
    next n hn =>
      rw [List.mem_singleton.mp h]
      exact Or.inr (isCaseForm_of_image? (List.subset_append_left _ _) hn)
    next => exact Or.inl (List.mem_singleton.mp h)

theorem mem_upper {x c : Char} (h : x ∈ upper c) : x = c ∨ IsCaseForm x := by
  unfold upper at h
  split at h
  next n hn =>
    rw [List.mem_singleton.mp h]
    exact Or.inr (isCaseForm_of_image? (List.subset_append_right _ _) hn)
  next =>
    split at h
    next ns hns =>
      obtain ⟨before, later, htable, _⟩ := List.lookup_eq_some_iff.mp hns
      obtain ⟨n, hn, rfl⟩ := List.mem_map.mp h
      obtain ⟨hlow, hchar, hblank⟩ := long_image_bounds (c.toNat, ns) (by simp [htable]) n hn
      have hcode := toNat_ofNat_of_isValidChar hchar
      refine Or.inr ⟨by omega, ?_⟩
      rw [isBlank, CharSet.contains, hcode, hblank]
    next => exact Or.inl (List.mem_singleton.mp h)

theorem mem_capital {x c : Char} (h : x ∈ capital c) : x = c ∨ IsCaseForm x := by
  unfold capital at h
  split at h
  · exact absurd h List.not_mem_nil
  next first later hupper =>
    have hform : ∀ y ∈ first :: later, y = c ∨ IsCaseForm y := by
      rw [← hupper]
      exact fun y hy => mem_upper hy
    rcases List.mem_cons.mp h with rfl | h
    · exact hform x List.mem_cons_self
    · obtain ⟨y, hy, hx⟩ := List.mem_flatMap.mp h
      rcases mem_lower hx with rfl | hx
      · exact hform x (List.mem_cons_of_mem _ hy)
      · exact Or.inr hx

end Text

/-! ## Phrases -/

namespace Phrase

open Text

theorem mem_splitCase {x : Char} {t : Text} (h : x ∈ splitCase t) : x = ' ' ∨ x ∈ t := by
  fun_induction splitCase t with
  | case1 a b rest _ ih =>
    rcases List.mem_cons.mp h with rfl | h
    · exact Or.inr List.mem_cons_self
    rcases List.mem_cons.mp h with rfl | h
    · exact Or.inl rfl
    · exact (ih h).imp_right (List.mem_cons_of_mem a)
  | case2 a b rest _ ih =>
    rcases List.mem_cons.mp h with rfl | h
    · exact Or.inr List.mem_cons_self
    · exact (ih h).imp_right (List.mem_cons_of_mem a)
  | case3 t _ => exact Or.inr h

theorem mem_words {x : Char} {name : Text} (h : x ∈ words name) : x = ' ' ∨ x ∈ name := by
  obtain ⟨c, hc, rfl⟩ := List.mem_map.mp h
  split
  · exact Or.inl rfl
  · exact mem_splitCase hc

theorem mem_of_dropOctets? {x : Char} {n : Nat} {t rest : Text} (h : dropOctets? n t = some rest)
    (hx : x ∈ rest) : x ∈ t := by
  induction t generalizing n with
  | nil =>
    cases n with
    | zero => exact Option.some.inj h ▸ hx
    | succ n => cases h
  | cons c later ih =>
    cases n with
    | zero => exact Option.some.inj h ▸ hx
    | succ n =>
      rw [dropOctets?] at h
      split at h
      · exact List.mem_cons_of_mem c (ih h)
      · cases h

theorem mem_withCapitals {x : Char} {t : Text} (h : x ∈ withCapitals t) :
    x = ' ' ∨ x ∈ t ∨ 0x41 ≤ x.toNat := by
  rcases mem_of_mem_join h with rfl | ⟨piece, hpiece, hx⟩
  · exact Or.inl rfl
  · obtain ⟨word, hword, rfl⟩ := List.mem_map.mp hpiece
    have hsub : ∀ y ∈ word, y ∈ t := fun y hy => mem_of_mem_split hword hy
    cases word with
    | nil => exact absurd hx List.not_mem_nil
    | cons first later =>
      rcases List.mem_append.mp hx with hx | hx
      · rcases mem_capital hx with rfl | hx
        · exact Or.inr (Or.inl (hsub x List.mem_cons_self))
        · exact Or.inr (Or.inr hx.le_toNat)
      · exact Or.inr (Or.inl (hsub x (List.mem_cons_of_mem first hx)))

theorem mem_titledFrom {x : Char} {afterLetter : Bool} {t : Text}
    (h : x ∈ titledFrom afterLetter t) :
    x ∈ t ∨ 0x41 ≤ x.toNat := by
  induction t generalizing afterLetter with
  | nil => exact absurd h List.not_mem_nil
  | cons c rest ih =>
    rw [titledFrom] at h
    split at h
    · rcases List.mem_append.mp h with h | h
      · have hform : x = c ∨ IsCaseForm x := by
          split at h
          · exact mem_lower h
          · exact mem_capital h
        exact hform.imp (fun hx => List.mem_cons.mpr (Or.inl hx)) IsCaseForm.le_toNat
      · exact (ih h).imp_left (List.mem_cons_of_mem c)
    · rcases List.mem_cons.mp h with rfl | h
      · exact Or.inl List.mem_cons_self
      · exact (ih h).imp_left (List.mem_cons_of_mem c)

theorem full_bounds : ∀ verb ∈ verbs, ∀ c ∈ verb.full, 0x41 ≤ c.toNat := by
  simp [verbs]

/-- **What a phrase is made of**: spaces, characters of the name, and characters that stand not
before `A`. -/
theorem mem_ofName {x : Char} {name : Text} (h : x ∈ ofName name) :
    x = ' ' ∨ x ∈ name ∨ 0x41 ≤ x.toNat := by
  unfold ofName at h
  split at h
  next verb hverb =>
    -- the verb, a space, and the rest of the name with capitals
    have hfull := full_bounds verb (List.mem_of_find?_eq_some hverb)
    rcases List.mem_append.mp (mem_of_mem_trim h) with h | h
    · exact Or.inr (Or.inr (hfull x h))
    rcases List.mem_cons.mp h with rfl | h
    · exact Or.inl rfl
    rcases mem_withCapitals h with h | h | h
    · exact Or.inl h
    · have hrest := mem_of_mem_trim h
      cases hdrop : dropOctets? verb.short.length (words name) with
      | none => simp [hdrop] at hrest
      | some rest =>
        rw [hdrop, Option.getD_some] at hrest
        exact (mem_words (mem_of_dropOctets? hdrop hrest)).imp_right Or.inl
    · exact Or.inr (Or.inr h)
  next =>
    rcases mem_titledFrom h with h | h
    · exact (mem_words h).imp_right Or.inl
    · exact Or.inr (Or.inr h)

end Phrase

/-! ## Remarks -/

namespace Text

/-- No character of a word stands before the space. -/
theorem le_toNat_of_isWord {c : Char} (h : isWord c = true) : 0x20 ≤ c.toNat := by
  have hranges : ∀ r ∈ wordCharacters.ranges, 0x20 ≤ r.1 := by decide +kernel
  obtain ⟨r, hr, hfirst, -⟩ := CharSet.exists_of_covers h
  exact (hranges r hr).trans hfirst

theorem le_toNat_of_mem_fixed {t : Text} (h : t.all fun c => decide (0x20 ≤ c.toNat)) {c : Char}
    (hc : c ∈ t) : 0x20 ≤ c.toNat :=
  of_decide_eq_true (List.all_eq_true.mp h c hc)

theorem isWord_of_mem_lastWord {c : Char} {t : Text} (h : c ∈ lastWord t) : isWord c = true :=
  List.mem_takeWhile_imp (List.mem_reverse.mp h)

end Text

namespace LineKind

open Text

/-- A name that is defined is a word. -/
theorem isWord_of_mem_definedName? {c : Char} {head : Pattern} {line name : Text}
    (h : definedName? head line = some name) (hc : c ∈ name) : isWord c = true := by
  obtain ⟨occurrence, _, rfl⟩ := Option.map_eq_some_iff.mp h
  exact isWord_of_mem_lastWord hc

theorem le_toNat_of_mem_definedName? {c : Char} {head : Pattern} {line name : Text}
    (h : definedName? head line = some name) (hc : c ∈ name) : 0x20 ≤ c.toNat :=
  le_toNat_of_isWord (isWord_of_mem_definedName? h hc)

theorem eq_of_remarkIf {recognised : Bool} {remark : String} {t : Text}
    (h : remarkIf recognised remark = some t) : t = remark.toList := by
  unfold remarkIf at h
  split at h
  · exact (Option.some.inj h).symm
  · cases h

/-- **No character of a remark stands before the space**, whatever kind of line the remark is
about. -/
theorem le_toNat_of_mem_remark? {kind : LineKind} {line remark : Text} {c : Char}
    (h : kind.remark? line = some remark) (hc : c ∈ remark) : 0x20 ≤ c.toNat := by
  cases kind with
  | newFunction =>
    obtain ⟨name, hname, rfl⟩ := Option.map_eq_some_iff.mp h
    rcases List.mem_append.mp hc with hc | hc
    · exact le_toNat_of_mem_fixed (by decide) hc
    · rcases Phrase.mem_ofName hc with rfl | hc | hc
      · decide
      · exact le_toNat_of_mem_definedName? hname hc
      · omega
  | newClass =>
    obtain ⟨name, hname, rfl⟩ := Option.map_eq_some_iff.mp h
    rcases List.mem_append.mp hc with hc | hc
    · exact le_toNat_of_mem_fixed (by decide) hc
    · exact le_toNat_of_mem_definedName? hname hc
  | assignment =>
    -- the text depends on the line, but is one of few that are fixed
    simp only [remark?, effectOfAssignment] at h
    split at h
    · obtain rfl := Option.some.inj h
      revert hc
      split
      · exact le_toNat_of_mem_fixed (by decide)
      · split <;> exact le_toNat_of_mem_fixed (by decide)
    · cases h
  | forEach | repeatWhile | condition | otherwiseIf | otherwise | result | output | inclusion =>
    rw [eq_of_remarkIf h] at hc
    exact le_toNat_of_mem_fixed (by decide) hc

end LineKind

theorem le_toNat_of_mem_remarkOn? {line remark : Text} {c : Char}
    (h : remarkOn? line = some remark) (hc : c ∈ remark) : 0x20 ≤ c.toNat := by
  obtain ⟨kind, _, hkind⟩ := List.exists_of_findSome?_eq_some h
  exact kind.le_toNat_of_mem_remark? hkind hc

end CodeGloss
