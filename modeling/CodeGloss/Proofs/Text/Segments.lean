import CodeGloss.Proofs.Text.Trim
import CodeGloss.Text.Letter
import CodeGloss.Text.Word
import Mathlib.Data.List.Chain

/-! # Words and the gaps between them

A text is its words with gaps around them.  A **segment** is a word together with its gap, the
characters behind it up to the next word; what stands in front of the first word is the opening gap
of the text.

Cutting a text into segments and putting segments together are inverse to each other
(`eq_gap_append_segments`, `segments_append_flatMap`), if only two words never touch.  So a
text that is put together of two others has the segments of both, if there is no word at the joint;
only the gap of the last word in front of the joint grows (`segments_append`).
-/
namespace CodeGloss

open Text

/-! ## Blanks, letters and words -/

namespace Text

/-- No blank character belongs to a word. -/
theorem blanks_outside_words : ∀ r ∈ blanks.ranges, ∀ k < r.2 + 1 - r.1,
    CharSet.covers wordCharacters.ranges (r.1 + k) = false := by
  decide +kernel

theorem isWord_of_isBlank {c : Char} (h : isBlank c = true) : isWord c = false :=
  CharSet.contains_eq_false_of_outside blanks_outside_words h

theorem isBlank_of_isWord {c : Char} (h : isWord c = true) : isBlank c = false := by
  by_contra hblank
  rw [isWord_of_isBlank (Bool.of_not_eq_false hblank)] at h
  cases h

/-- The letters of ASCII belong to words, and so do the long s and the Kelvin sign. -/
theorem letters_inside_words :
    (∀ k < 26, CharSet.covers wordCharacters.ranges (0x41 + k) = true ∧
      CharSet.covers wordCharacters.ranges (0x61 + k) = true) ∧
    CharSet.covers wordCharacters.ranges 0x17F = true ∧
    CharSet.covers wordCharacters.ranges 0x212A = true := by
  decide +kernel

theorem bounds_of_isLower {a : Char} (h : a.isLower = true) : 0x61 ≤ a.toNat ∧ a.toNat ≤ 0x7A := by
  obtain ⟨hlow, hhigh⟩ := Bool.and_eq_true_iff.mp h
  exact ⟨UInt32.le_iff_toNat_le.mp (of_decide_eq_true hlow),
    UInt32.le_iff_toNat_le.mp (of_decide_eq_true hhigh)⟩

/-- A small ASCII letter is its own folded form. -/
theorem fold_of_isLower {a : Char} (h : a.isLower = true) : fold a = a := by
  have hbounds := bounds_of_isLower h
  have hs : a ≠ Char.ofNat 0x17F := by
    rintro rfl
    exact absurd hbounds.2 (by decide)
  have hk : a ≠ Char.ofNat 0x212A := by
    rintro rfl
    exact absurd hbounds.2 (by decide)
  have hlower : a.toLower = a := by
    refine dif_neg fun hcapital => ?_
    have hle : a.toNat ≤ 0x5A := hcapital.2
    omega
  rw [fold, if_neg hs, if_neg hk, hlower]

/-- Whatever is equal to a small ASCII letter but for case belongs to a word. -/
theorem isWord_of_sameLetter {a c : Char} (ha : a.isLower = true) (h : sameLetter a c = true) :
    isWord c = true := by
  obtain ⟨hletters, hlongS, hkelvin⟩ := letters_inside_words
  have hfold : fold c = a := by
    rw [← fold_of_isLower ha]
    exact (of_decide_eq_true h).symm
  unfold fold at hfold
  split at hfold
  next hc => exact hc ▸ hlongS
  next =>
    split at hfold
    next hc => exact hc ▸ hkelvin
    next =>
      unfold Char.toLower at hfold
      split at hfold
      next hcapital =>
        have hlow : 0x41 ≤ c.toNat := hcapital.1
        have hhigh : c.toNat ≤ 0x5A := hcapital.2
        have hcover := (hletters (c.toNat - 0x41) (by omega)).1
        rwa [Nat.add_sub_cancel' hlow] at hcover
      next =>
        obtain ⟨hlow, hhigh⟩ := bounds_of_isLower ha
        have hcover := (hletters (a.toNat - 0x61) (by omega)).2
        rw [Nat.add_sub_cancel' hlow] at hcover
        exact hfold ▸ hcover

end Text

/-! ## Segments -/

/-- A word of a text with the characters behind it up to the next word. -/
@[ext]
structure Segment where
  /-- The word. -/
  word : Text
  /-- The characters between the word and the next one. -/
  gap : Text
  word_ne_nil : word ≠ []
  isWord_of_mem_word : ∀ c ∈ word, isWord c = true
  isWord_of_mem_gap : ∀ c ∈ gap, isWord c = false

namespace Text

/-- The characters in front of the first word. -/
def gapOf (t : Text) : Text :=
  t.takeWhile fun c => !isWord c

theorem isWord_of_mem_gapOf {t : Text} {c : Char} (h : c ∈ gapOf t) : isWord c = false := by
  simpa using List.mem_takeWhile_imp h

end Text

namespace Segment

/-- The characters of a segment. -/
def text (s : Segment) : Text :=
  s.word ++ s.gap

/-- A word of one character, in front of the given text. -/
def ofLetter (c : Char) (h : isWord c = true) (rest : Text) : Segment where
  word := [c]
  gap := gapOf rest
  word_ne_nil := List.cons_ne_nil c []
  isWord_of_mem_word := by simpa using h
  isWord_of_mem_gap _ := isWord_of_mem_gapOf

/-- The segment with one more character at the start of its word. -/
def grow (c : Char) (h : isWord c = true) (s : Segment) : Segment where
  word := c :: s.word
  gap := s.gap
  word_ne_nil := List.cons_ne_nil c s.word
  isWord_of_mem_word := List.forall_mem_cons.mpr ⟨h, s.isWord_of_mem_word⟩
  isWord_of_mem_gap := s.isWord_of_mem_gap

/-- The segment with more characters in its gap. -/
def widen (s : Segment) (g : Text) (h : ∀ c ∈ g, isWord c = false) : Segment where
  word := s.word
  gap := s.gap ++ g
  word_ne_nil := s.word_ne_nil
  isWord_of_mem_word := s.isWord_of_mem_word
  isWord_of_mem_gap := List.forall_mem_append.mpr ⟨s.isWord_of_mem_gap, h⟩

end Segment

namespace Text

/-- The segments of a text in order. -/
def segments : Text → List Segment
  | [] => []
  | c :: rest =>
    if h : isWord c = true then
      if isWord? rest.head? then (segments rest).modifyHead (Segment.grow c h)
      else .ofLetter c h rest :: segments rest
    else segments rest

/-- Segments between which no two words touch. -/
def Apart (segs : List Segment) : Prop :=
  segs.IsChain fun s _ => s.gap ≠ []

variable {t rest : Text}

theorem gapOf_eq_nil (h : isWord? t.head? = true) : gapOf t = [] := by
  cases t with
  | nil => rfl
  | cons c rest => exact List.takeWhile_cons_of_neg (by simpa [isWord?] using h)

theorem gapOf_append {g : Text} (hg : ∀ c ∈ g, isWord c = false) (t : Text) :
    gapOf (g ++ t) = g ++ gapOf t :=
  List.takeWhile_append_of_pos fun c hc => by simp [hg c hc]

/-- Behind a gap, if there is one, no word goes on. -/
theorem isWord?_head?_gap_append {g : Text} (hg : ∀ c ∈ g, isWord c = false)
    (h : g ≠ [] ∨ isWord? t.head? = false) : isWord? (g ++ t).head? = false := by
  cases g with
  | nil => simpa using h
  | cons c g => exact hg c List.mem_cons_self

/-! ### Cutting a text into its segments -/

theorem segments_cons_of_not_isWord {c : Char} (h : isWord c = false) (rest : Text) :
    segments (c :: rest) = segments rest := by
  rw [segments, dif_neg (by simp [h])]

theorem segments_gap_append {g : Text} (hg : ∀ c ∈ g, isWord c = false) (t : Text) :
    segments (g ++ t) = segments t := by
  induction g with
  | nil => rfl
  | cons c g ih =>
    obtain ⟨hc, hg⟩ := List.forall_mem_cons.mp hg
    rw [List.cons_append, segments_cons_of_not_isWord hc, ih hg]

/-- A word that has ended is one segment. -/
theorem segments_text_append (s : Segment) (hrest : gapOf rest = [])
    (hend : isWord? (s.gap ++ rest).head? = false) :
    segments (s.text ++ rest) = s :: segments rest := by
  obtain ⟨word, gap, hne, hword, hgap⟩ := s
  have hgapOf : gapOf (gap ++ rest) = gap := by rw [gapOf_append hgap, hrest, List.append_nil]
  replace hend : isWord? (gap ++ rest).head? = false := hend
  rw [Segment.text, List.append_assoc]
  induction word with
  | nil => exact absurd rfl hne
  | cons c word ih =>
    obtain ⟨hc, hword⟩ := List.forall_mem_cons.mp hword
    rw [List.cons_append, segments, dif_pos hc]
    cases word with
    | nil =>
      rw [List.nil_append, hend, if_neg Bool.false_ne_true, segments_gap_append hgap]
      exact congrArg (· :: _) (Segment.ext rfl hgapOf)
    | cons d word =>
      have hd : isWord? (d :: word ++ (gap ++ rest)).head? = true := hword d List.mem_cons_self
      rw [if_pos hd, ih (List.cons_ne_nil d word) hword]
      rfl

theorem isWord?_head?_flatMap {segs : List Segment} (h : segs ≠ []) :
    isWord? (segs.flatMap Segment.text).head? = true := by
  obtain ⟨s, later, rfl⟩ := List.exists_cons_of_ne_nil h
  obtain ⟨c, word, hword⟩ := List.exists_cons_of_ne_nil s.word_ne_nil
  have hc : isWord c = true := s.isWord_of_mem_word c (hword ▸ List.mem_cons_self)
  simpa [Segment.text, hword, isWord?] using hc

theorem Apart.tail {s : Segment} {later : List Segment} (h : Apart (s :: later)) : Apart later :=
  (List.isChain_cons.mp h).2

theorem Apart.gap_ne_nil {s : Segment} {later : List Segment} (h : Apart (s :: later))
    (hlater : later ≠ []) : s.gap ≠ [] :=
  (List.isChain_cons.mp h).1 _ (List.head_mem_head? hlater)

theorem Apart.gap_ne_nil_of_mem {s : Segment} {segs : List Segment} (h : Apart segs)
    (hs : s ∈ segs.dropLast) : s.gap ≠ [] := by
  induction segs with
  | nil => cases hs
  | cons a later ih =>
    cases later with
    | nil => cases hs
    | cons b later =>
      rcases List.mem_cons.mp hs with rfl | hs
      · exact h.gap_ne_nil (List.cons_ne_nil b later)
      · exact ih h.tail hs

/-- The word of a segment has ended. -/
theorem Apart.isWord?_head? {s : Segment} {later : List Segment} (h : Apart (s :: later)) :
    isWord? (s.gap ++ later.flatMap Segment.text).head? = false := by
  refine isWord?_head?_gap_append s.isWord_of_mem_gap ?_
  by_cases hnil : later = []
  · subst hnil
    exact Or.inr rfl
  · exact Or.inl (h.gap_ne_nil hnil)

theorem gapOf_flatMap (segs : List Segment) : gapOf (segs.flatMap Segment.text) = [] := by
  by_cases hnil : segs = []
  · subst hnil
    rfl
  · exact gapOf_eq_nil (isWord?_head?_flatMap hnil)

/-- **Segments that are put together are what the text is cut into.** -/
theorem segments_append_flatMap {g : Text} (hg : ∀ c ∈ g, isWord c = false)
    {segs : List Segment} (h : Apart segs) : segments (g ++ segs.flatMap Segment.text) = segs := by
  rw [segments_gap_append hg]
  induction segs with
  | nil => rfl
  | cons s later ih =>
    rw [List.flatMap_cons, segments_text_append s (gapOf_flatMap later) h.isWord?_head?, ih h.tail]

/-- Every text is put together of an opening gap and segments. -/
theorem exists_eq_gap_append (t : Text) : ∃ (g : Text) (segs : List Segment),
    (∀ c ∈ g, isWord c = false) ∧ Apart segs ∧ t = g ++ segs.flatMap Segment.text := by
  induction t with
  | nil => exact ⟨[], [], by simp, List.isChain_nil, rfl⟩
  | cons c rest ih =>
    obtain ⟨g, segs, hg, hapart, rfl⟩ := ih
    by_cases hc : isWord c = true
    · by_cases hjoin : g = [] ∧ segs ≠ []
      · -- the first word goes on to the left
        obtain ⟨rfl, hne⟩ := hjoin
        obtain ⟨s, later, rfl⟩ := List.exists_cons_of_ne_nil hne
        have hgrown : Apart (s.grow c hc :: later) :=
          List.isChain_cons.mpr (List.isChain_cons.mp hapart)
        exact ⟨[], s.grow c hc :: later, by simp, hgrown, rfl⟩
      · refine ⟨[], ⟨[c], g, by simp, by simpa using hc, hg⟩ :: segs, by simp,
          List.isChain_cons.mpr ⟨?_, hapart⟩, rfl⟩
        rintro s hs rfl
        exact hjoin ⟨rfl, by rintro rfl; cases hs⟩
    · exact ⟨c :: g, segs, List.forall_mem_cons.mpr ⟨by simpa using hc, hg⟩, hapart, rfl⟩

/-- **A text is its opening gap and its segments.** -/
theorem eq_gap_append_segments (t : Text) : ∃ g : Text, (∀ c ∈ g, isWord c = false) ∧
    Apart (segments t) ∧ t = g ++ (segments t).flatMap Segment.text := by
  obtain ⟨g, segs, hg, hapart, rfl⟩ := exists_eq_gap_append t
  rw [segments_append_flatMap hg hapart]
  exact ⟨g, hg, hapart, rfl⟩

/-! ### Texts that are put together -/

/-- **Where no word goes on, the segments of two texts are put together**: the gap of the last word
in front of the joint grows, and nothing else changes. -/
theorem segments_append (t : Text) (h : isWord? rest.head? = false) :
    (segments t = [] ∧ segments (t ++ rest) = segments rest) ∨
      ∃ (segs : List Segment) (s s' : Segment), segments t = segs ++ [s] ∧ s'.word = s.word ∧
        segments (t ++ rest) = segs ++ s' :: segments rest := by
  obtain ⟨g, hg, hapart, ht⟩ := eq_gap_append_segments t
  obtain ⟨r, hr, hapart', hrest⟩ := eq_gap_append_segments rest
  have hjoint : segments rest ≠ [] → r ≠ [] := by
    rintro hne rfl
    rw [hrest, List.nil_append, isWord?_head?_flatMap hne] at h
    cases h
  generalize segments t = before at ht hapart
  generalize segments rest = behind at hrest hapart' hjoint
  subst ht hrest
  rcases List.eq_nil_or_concat' before with rfl | ⟨segs, s, rfl⟩
  · refine Or.inl ⟨rfl, ?_⟩
    have hgap : ∀ c ∈ g ++ r, isWord c = false := List.forall_mem_append.mpr ⟨hg, hr⟩
    rw [List.flatMap_nil, List.append_nil, ← List.append_assoc,
      segments_append_flatMap hgap hapart']
  · refine Or.inr ⟨segs, s, s.widen r hr, rfl, rfl, ?_⟩
    have htext : (g ++ (segs ++ [s]).flatMap Segment.text) ++ (r ++ behind.flatMap Segment.text) =
        g ++ (segs ++ s.widen r hr :: behind).flatMap Segment.text := by
      simp [Segment.text, Segment.widen]
    obtain ⟨hsegs, -, hlast⟩ := List.isChain_append.mp hapart
    have hwide : Apart (s.widen r hr :: behind) := by
      refine List.isChain_cons.mpr ⟨fun s' hs' hnil => ?_, hapart'⟩
      have hr' : r ≠ [] := hjoint (by rintro rfl; cases hs')
      exact hr' (List.append_eq_nil_iff.mp hnil).2
    rw [htext]
    refine segments_append_flatMap hg (List.isChain_append.mpr ⟨hsegs, hwide, ?_⟩)
    exact fun x hx _ _ => hlast x hx s rfl

theorem segments_append_cons {c : Char} (hc : isWord c = false) (s t : Text) :
    (segments s = [] ∧ segments (s ++ c :: t) = segments t) ∨
      ∃ (segs : List Segment) (x x' : Segment), segments s = segs ++ [x] ∧ x'.word = x.word ∧
        segments (s ++ c :: t) = segs ++ x' :: segments t := by
  have hjoint := segments_append s (show isWord? (c :: t).head? = false from hc)
  rwa [segments_cons_of_not_isWord hc] at hjoint

end Text
end CodeGloss
