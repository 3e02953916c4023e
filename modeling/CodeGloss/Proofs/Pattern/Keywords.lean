import CodeGloss.Proofs.Pattern.Matching
import CodeGloss.Proofs.Pattern.Pairs
import CodeGloss.Proofs.Text.Segments

/-! # Patterns that look for keywords

Both kinds of patterns for words, `words` and `definitions`, begin with one of several keywords and
then ask for the end of the word.  Such a pattern matches at most where a word begins, and there it
depends on the whole word (`lengthAt_word`).  So what it finds can be read off the segments of the
text.

* The occurrences of whole words are the words that are keywords (`occurrences_words`).
* The occurrences of definitions are pairs of neighbouring words: a keyword with blanks behind it
  and the next word.  They are taken from the left, and no two share a word
  (`occurrences_definitions`).
-/
namespace CodeGloss

open Text

/-! ## Keywords -/

namespace Segment

/-- Whether the word is one of the keywords, but for case. -/
def isOneOf (keywords : List String) (s : Segment) : Bool :=
  keywords.any fun k => s.word.map fold == k.toList

/-- Whether the segment can be the start of a definition: a keyword with only blanks behind it. -/
def opens (keywords : List String) (s : Segment) : Bool :=
  s.isOneOf keywords && s.gap.all isBlank

end Segment

namespace Pattern

/-! ## Patterns that begin with a keyword -/

/-- The pattern of each of the keywords at the edge of a word with the given pieces behind it. -/
def headed (keywords : List String) (later : List Piece) : Pattern :=
  ⟨keywords.map fun k => .edge :: spell k ++ later⟩

/-- Whether the text is a keyword: one or more small ASCII letters. -/
def IsKeyword (k : String) : Prop :=
  k.toList ≠ [] ∧ k.toList.all Char.isLower = true

instance (k : String) : Decidable (IsKeyword k) :=
  inferInstanceAs (Decidable (_ ∧ _))

/-- Whether the pieces match nowhere within a word. -/
def AskWordEnd (later : List Piece) : Prop :=
  ∀ b c rest, isWord b = true → isWord c = true → matchLength later (some b) (c :: rest) = none

theorem words_eq_headed (keywords : List String) : words keywords = headed keywords [.edge] :=
  rfl

theorem definitions_eq_headed (keywords : List String) :
    definitions keywords = headed keywords [gap, wordRun] :=
  rfl

theorem askWordEnd_edge : AskWordEnd [.edge] := by
  intro b c rest hb hc
  simp [matchLength, isEdge, isWord?, hb, hc]

theorem askWordEnd_gap : AskWordEnd [gap, wordRun] := by
  intro b c rest _ hc
  have hblank : ¬ isBlank c = true := Bool.eq_false_iff.mp (isBlank_of_isWord hc)
  rw [gap, matchLength]
  exact if_neg hblank

variable {keywords : List String} {later : List Piece} {before : Option Char} {word rest t : Text}

theorem AskWordEnd.matchLength_eq_none (h : AskWordEnd later) (hbefore : isWord? before = true)
    (ht : isWord? t.head? = true) : matchLength later before t = none := by
  cases before with
  | none => cases hbefore
  | some b =>
    cases t with
    | nil => cases ht
    | cons c t => exact h b c t hbefore ht

/-- Letters match at the start of a word, and the pieces behind them do, if and only if the letters
are the whole word and the pieces match behind it. -/
theorem matchLength_letters (hlater : AskWordEnd later) (hrest : isWord? rest.head? = false)
    {letters : Text} (hletters : ∀ c ∈ letters, c.isLower = true)
    (hword : ∀ c ∈ word, isWord c = true) (hstart : letters = [] → isWord? before = true) :
    matchLength (letters.map (fun c => .one (.letter c)) ++ later) before (word ++ rest) =
      if word.map fold = letters then
        (matchLength later (word.getLast?.or before) rest).map (word.length + ·)
      else none := by
  induction letters generalizing before word with
  | nil =>
    cases word with
    | nil => simp
    | cons c word =>
      have hc : isWord? (c :: word ++ rest).head? = true := hword c List.mem_cons_self
      rw [List.map_nil, List.nil_append, hlater.matchLength_eq_none (hstart rfl) hc]
      rfl
  | cons a letters ih =>
    obtain ⟨ha, hletters⟩ := List.forall_mem_cons.mp hletters
    have hletter {c : Char} (hc : Kind.has (.letter a) c = true) : isWord c = true :=
      isWord_of_sameLetter ha hc
    cases word with
    | nil =>
      cases rest with
      | nil => rfl
      | cons c rest =>
        have hc : ¬ Kind.has (.letter a) c = true := fun hc =>
          Bool.false_ne_true (hrest.symm.trans (hletter hc))
        simp [matchLength, hc]
    | cons c word =>
      obtain ⟨hc, hword⟩ := List.forall_mem_cons.mp hword
      have hhas : Kind.has (.letter a) c = true ↔ fold c = a := by
        rw [Kind.has, sameLetter, fold_of_isLower ha, decide_eq_true_eq, eq_comm]
      rw [List.map_cons, List.cons_append, List.cons_append, matchLength]
      by_cases hca : fold c = a
      · rw [if_pos (hhas.mpr hca), ih hletters hword fun _ => show isWord? (some c) = true from hc,
          getLast?_cons_or]
        by_cases hw : word.map fold = letters
        · rw [if_pos hw, if_pos (by rw [List.map_cons, hca, hw]), Option.map_map]
          congr 1
          funext n
          simp [Nat.add_right_comm]
        · rw [if_neg hw, if_neg (by simp [hw])]
          rfl
      · rw [if_neg (mt hhas.mp hca), if_neg (by simp [hca])]

theorem matchLength_keyword {k : String} (hk : IsKeyword k) (hlater : AskWordEnd later)
    (hbefore : isWord? before = false) (s : Segment) (hrest : isWord? rest.head? = false) :
    matchLength (.edge :: spell k ++ later) before (s.word ++ rest) =
      if s.word.map fold = k.toList then
        (matchLength later s.word.getLast? rest).map (s.word.length + ·)
      else none := by
  have hhead : isWord? (s.word ++ rest).head? = true := by
    obtain ⟨c, word, hword⟩ := List.exists_cons_of_ne_nil s.word_ne_nil
    rw [hword]
    exact s.isWord_of_mem_word c (hword ▸ List.mem_cons_self)
  have hedge : isEdge before (s.word ++ rest).head? = true := by
    rw [isEdge, hbefore, hhead]
    rfl
  have hlast : s.word.getLast?.or before = s.word.getLast? := by
    rw [List.getLast?_eq_some_getLast s.word_ne_nil]
    rfl
  rw [List.cons_append, matchLength, if_pos hedge, spell,
    matchLength_letters hlater hrest (List.all_eq_true.mp hk.2) s.isWord_of_mem_word
      (fun hnil => absurd hnil hk.1), hlast]

/-- **Where a word begins, the pattern asks for one of the keywords as the whole word**, and for the
other pieces behind it. -/
theorem lengthAt_word (hkeywords : ∀ k ∈ keywords, IsKeyword k) (hlater : AskWordEnd later)
    (hbefore : isWord? before = false) (s : Segment) (hrest : isWord? rest.head? = false) :
    (headed keywords later).lengthAt before (s.word ++ rest) =
      if s.isOneOf keywords then
        (matchLength later s.word.getLast? rest).map (s.word.length + ·)
      else none := by
  simp only [headed, lengthAt, List.findSome?_map]
  induction keywords with
  | nil => rfl
  | cons k keywords ih =>
    obtain ⟨hk, hkeywords⟩ := List.forall_mem_cons.mp hkeywords
    rw [List.findSome?_cons, ih hkeywords, Function.comp_apply,
      matchLength_keyword hk hlater hbefore s hrest]
    by_cases hw : s.word.map fold = k.toList
    · have hkey : s.isOneOf (k :: keywords) = true := by simp [Segment.isOneOf, hw]
      rw [if_pos hw, if_pos hkey]
      -- a later keyword could only make the same of what stands behind the word
      cases matchLength later s.word.getLast? rest with
      | none => exact ite_self none
      | some n => rfl
    · have hkey : s.isOneOf (k :: keywords) = s.isOneOf keywords := by simp [Segment.isOneOf, hw]
      rw [if_neg hw, hkey]

/-- **The pattern matches nowhere but where a word begins.** -/
theorem lengthAt_eq_none (hkeywords : ∀ k ∈ keywords, IsKeyword k)
    (h : isWord? t.head? = false ∨ isWord? before = true) :
    (headed keywords later).lengthAt before t = none := by
  simp only [headed, lengthAt, List.findSome?_map, List.findSome?_eq_none_iff]
  intro k hk
  obtain ⟨hne, hlower⟩ := hkeywords k hk
  obtain ⟨a, letters, hletters⟩ := List.exists_cons_of_ne_nil hne
  rw [Function.comp_apply, List.cons_append, matchLength, spell, hletters]
  split
  next hedge =>
    cases t with
    | nil => rfl
    | cons c t =>
      have hc : isWord c = false := by
        rcases h with h | h
        · exact h
        · rw [isEdge, h] at hedge
          simpa [isWord?] using hedge
      have hletter : ¬ Kind.has (.letter a) c = true := by
        intro hhas
        have ha : a.isLower = true := List.all_eq_true.mp hlower a (hletters ▸ List.mem_cons_self)
        rw [isWord_of_sameLetter ha hhas] at hc
        cases hc
      rw [List.map_cons, List.cons_append, matchLength, if_neg hletter]
  next => rfl

/-! ## Reading from word to word -/

/-- Reading passes over what is outside of words, and over the rest of a word. -/
theorem occurrencesFrom_skip (hkeywords : ∀ k ∈ keywords, IsKeyword k) {u : Text}
    (hu : (∀ c ∈ u, isWord c = false) ∨ (∀ c ∈ u, isWord c = true) ∧ isWord? before = true)
    (rest : Text) :
    (headed keywords later).occurrencesFrom 0 before (u ++ rest) =
      (headed keywords later).occurrencesFrom 0 (u.getLast?.or before) rest := by
  induction u generalizing before with
  | nil => rfl
  | cons c u ih =>
    have hnone : isWord? (c :: (u ++ rest)).head? = false ∨ isWord? before = true := by
      rcases hu with hu | hu
      · exact Or.inl (hu c List.mem_cons_self)
      · exact Or.inr hu.2
    have hu' : (∀ x ∈ u, isWord x = false) ∨
        (∀ x ∈ u, isWord x = true) ∧ isWord? (some c) = true := by
      rcases hu with hu | ⟨hu, -⟩
      · exact Or.inl (List.forall_mem_cons.mp hu).2
      · exact Or.inr (List.forall_mem_cons.mp hu).symm
    rw [List.cons_append, occurrencesFrom_cons_of_none (lengthAt_eq_none hkeywords hnone),
      ih hu', getLast?_cons_or]

theorem isWord?_getLast?_or {g : Text} (hg : ∀ c ∈ g, isWord c = false)
    (h : g ≠ [] ∨ isWord? before = false) : isWord? (g.getLast?.or before) = false := by
  cases hlast : g.getLast? with
  | none =>
    rw [List.getLast?_eq_none_iff] at hlast
    exact h.resolve_left fun hne => hne hlast
  | some c => exact hg c (List.mem_of_getLast? hlast)

/-- A word at which the pattern does not match is passed over. -/
theorem occurrencesFrom_word_of_none (hkeywords : ∀ k ∈ keywords, IsKeyword k) (s : Segment)
    (h : (headed keywords later).lengthAt before (s.word ++ rest) = none) :
    (headed keywords later).occurrencesFrom 0 before (s.word ++ rest) =
      (headed keywords later).occurrencesFrom 0 s.word.getLast? rest := by
  obtain ⟨c, word, hword⟩ := List.exists_cons_of_ne_nil s.word_ne_nil
  have hall := s.isWord_of_mem_word
  rw [hword] at h hall ⊢
  rw [List.forall_mem_cons] at hall
  rw [List.cons_append] at h ⊢
  have hrest : (∀ x ∈ word, isWord x = false) ∨
      (∀ x ∈ word, isWord x = true) ∧ isWord? (some c) = true := Or.inr hall.symm
  rw [occurrencesFrom_cons_of_none h, occurrencesFrom_skip hkeywords hrest,
    ← getLast?_cons_or c word none, Option.or_none]

/-- Behind a word that is followed by a gap, no word goes on. -/
theorem isWord?_gap_getLast? (before : Option Char) {s : Segment} {behind : List Segment}
    (h : Apart (s :: behind)) (hne : behind ≠ []) : isWord? (s.gap.getLast?.or before) = false :=
  isWord?_getLast?_or s.isWord_of_mem_gap (Or.inl (h.gap_ne_nil hne))

/-! ## Whole words -/

theorem matchLength_edge (s : Segment) (hrest : isWord? rest.head? = false) :
    matchLength [.edge] s.word.getLast? rest = some 0 := by
  have hlast : isWord? s.word.getLast? = true := by
    rw [List.getLast?_eq_some_getLast s.word_ne_nil]
    exact s.isWord_of_mem_word _ (List.getLast_mem s.word_ne_nil)
  rw [matchLength, isEdge, hlast, hrest]
  rfl

/-- **The occurrences of whole words are the words that are keywords.** -/
theorem occurrencesFrom_words (hkeywords : ∀ k ∈ keywords, IsKeyword k) {segs : List Segment}
    (hapart : Apart segs) {g : Text} (hg : ∀ c ∈ g, isWord c = false)
    (hstart : segs ≠ [] → isWord? (g.getLast?.or before) = false) :
    (words keywords).occurrencesFrom 0 before (g ++ segs.flatMap Segment.text) =
      (segs.filter (Segment.isOneOf keywords)).map Segment.word := by
  rw [words_eq_headed]
  induction segs generalizing before g with
  | nil =>
    rw [occurrencesFrom_skip hkeywords (Or.inl hg)]
    exact occurrencesFrom_nil _ _ _
  | cons s behind ih =>
    have hend := hapart.isWord?_head?
    have hlength :=
      lengthAt_word hkeywords askWordEnd_edge (hstart (List.cons_ne_nil s behind)) s hend
    rw [matchLength_edge s hend, Option.map_some, Nat.add_zero] at hlength
    rw [occurrencesFrom_skip hkeywords (Or.inl hg), List.flatMap_cons, Segment.text,
      List.append_assoc]
    have hbehind := ih hapart.tail s.isWord_of_mem_gap
      (isWord?_gap_getLast? s.word.getLast? hapart)
    by_cases hkey : s.isOneOf keywords = true
    · rw [if_pos hkey] at hlength
      rw [occurrencesFrom_append s.word_ne_nil hlength, hbehind, List.filter_cons_of_pos hkey,
        List.map_cons]
    · rw [if_neg hkey] at hlength
      rw [occurrencesFrom_word_of_none hkeywords s hlength, hbehind, List.filter_cons_of_neg hkey]

theorem occurrences_words (hkeywords : ∀ k ∈ keywords, IsKeyword k) (t : Text) :
    (words keywords).occurrences t =
      ((segments t).filter (Segment.isOneOf keywords)).map Segment.word := by
  obtain ⟨g, hg, hapart, ht⟩ := eq_gap_append_segments t
  conv_lhs => rw [ht]
  exact occurrencesFrom_words hkeywords hapart hg fun _ =>
    isWord?_getLast?_or hg (Or.inr rfl)

/-! ## Definitions -/

/-- A gap that is not of blanks, or that no word follows, is no gap of a definition. -/
theorem matchLength_gap_of_not_blank (s : Segment) (behind : List Segment)
    (h : behind ≠ [] → s.gap.all isBlank = false) :
    matchLength [gap, wordRun] before (s.gap ++ behind.flatMap Segment.text) = none := by
  cases hmatch : matchLength [gap, wordRun] before (s.gap ++ behind.flatMap Segment.text) with
  | none => rfl
  | some n =>
    obtain ⟨blanks, t, m, htext, -, hblanks, hname, -⟩ := matchLength_some_eq_some hmatch
    obtain ⟨name, rest, -, rfl, hne, hword, -, -⟩ := matchLength_some_eq_some hname
    obtain ⟨c, name, rfl⟩ := List.exists_cons_of_ne_nil hne
    have hc : isWord? (c :: name ++ rest).head? = true := hword c List.mem_cons_self
    -- both texts begin with what stands in front of the first word
    have hgap : s.gap = blanks := by
      have hgapOf := congrArg gapOf htext
      rwa [gapOf_append s.isWord_of_mem_gap, gapOf_flatMap, List.append_nil,
        gapOf_append fun c hc => isWord_of_isBlank (hblanks c hc), gapOf_eq_nil hc,
        List.append_nil] at hgapOf
    have hbehind : behind ≠ [] := by
      rintro rfl
      rw [hgap, List.append_cancel_left_eq] at htext
      cases htext
    have hall : s.gap.all isBlank = true := hgap ▸ List.all_eq_true.mpr hblanks
    rw [h hbehind] at hall
    cases hall

/-- Blanks and the next word up to its end are taken whole. -/
theorem matchLength_gap_of_blank {s s' : Segment} (hne : s.gap ≠ [])
    (hblank : s.gap.all isBlank = true) (hrest : isWord? rest.head? = false) :
    matchLength [gap, wordRun] before (s.gap ++ (s'.word ++ rest)) =
      some (s.gap.length + s'.word.length) := by
  have hname : matchLength [wordRun] s.gap.getLast? (s'.word ++ rest) = some s'.word.length := by
    refine matchLength_some_append s'.word_ne_nil s'.isWord_of_mem_word (m := 0) ?_ rfl
    intro c hc
    rw [hc] at hrest
    exact hrest
  refine matchLength_some_append hne (List.all_eq_true.mp hblank) ?_ hname
  intro c hc
  obtain ⟨d, word, hword⟩ := List.exists_cons_of_ne_nil s'.word_ne_nil
  rw [hword] at hc
  obtain rfl := Option.some.inj hc
  exact isBlank_of_isWord (s'.isWord_of_mem_word d (hword ▸ List.mem_cons_self))

/-- No definition begins at a segment that does not open one, and none at the last segment. -/
theorem lengthAt_definitions_eq_none (hkeywords : ∀ k ∈ keywords, IsKeyword k) {s : Segment}
    {behind : List Segment} (hapart : Apart (s :: behind)) (hbefore : isWord? before = false)
    (h : behind ≠ [] → s.opens keywords = false) :
    (headed keywords [gap, wordRun]).lengthAt before
      (s.word ++ (s.gap ++ behind.flatMap Segment.text)) = none := by
  rw [lengthAt_word hkeywords askWordEnd_gap hbefore s hapart.isWord?_head?]
  split
  next hkey =>
    have hblank (hne : behind ≠ []) : s.gap.all isBlank = false := by
      simpa [Segment.opens, hkey] using h hne
    rw [matchLength_gap_of_not_blank s behind hblank]
    rfl
  next => rfl

/-- **The occurrences of definitions are pairs of neighbouring words**, a keyword with blanks behind
it and the next word, taken from the left. -/
theorem occurrencesFrom_definitions (hkeywords : ∀ k ∈ keywords, IsKeyword k)
    {segs : List Segment} (hapart : Apart segs) {g : Text} (hg : ∀ c ∈ g, isWord c = false)
    (hstart : segs ≠ [] → isWord? (g.getLast?.or before) = false) :
    (definitions keywords).occurrencesFrom 0 before (g ++ segs.flatMap Segment.text) =
      (pairs (Segment.opens keywords) segs).map fun q => q.1.text ++ q.2.word := by
  rw [definitions_eq_headed]
  fun_induction pairs (Segment.opens keywords) segs generalizing before g with
  | case1 s s' later hopens ih =>
    obtain ⟨hkey, hblank⟩ := Bool.and_eq_true_iff.mp hopens
    have hend := hapart.isWord?_head?
    have hend' := hapart.tail.isWord?_head?
    have hlength := lengthAt_word hkeywords askWordEnd_gap (hstart (List.cons_ne_nil _ _)) s hend
    rw [if_pos hkey, List.flatMap_cons, Segment.text, List.append_assoc,
      matchLength_gap_of_blank (hapart.gap_ne_nil (List.cons_ne_nil _ _)) hblank hend'] at hlength
    have hpair : (headed keywords [gap, wordRun]).lengthAt (g.getLast?.or before)
        (s.text ++ s'.word ++ (s'.gap ++ later.flatMap Segment.text)) =
          some (s.text ++ s'.word).length := by
      simpa [Segment.text, Nat.add_assoc] using hlength
    have hne : s.text ++ s'.word ≠ [] := by simp [Segment.text, s.word_ne_nil]
    rw [occurrencesFrom_skip hkeywords (Or.inl hg), List.map_cons,
      ← ih hapart.tail.tail s'.isWord_of_mem_gap (isWord?_gap_getLast? _ hapart.tail),
      ← occurrencesFrom_append hne hpair]
    simp [Segment.text]
  | case2 s s' later hopens ih =>
    have hnone := lengthAt_definitions_eq_none hkeywords hapart
      (hstart (List.cons_ne_nil _ _)) fun _ => by simpa using hopens
    rw [occurrencesFrom_skip hkeywords (Or.inl hg), List.flatMap_cons, Segment.text,
      List.append_assoc, occurrencesFrom_word_of_none hkeywords s hnone,
      ih hapart.tail s.isWord_of_mem_gap (isWord?_gap_getLast? _ hapart)]
  | case3 segs hshort =>
    rw [occurrencesFrom_skip hkeywords (Or.inl hg)]
    rcases segs with - | ⟨s, - | ⟨s', later⟩⟩
    · exact occurrencesFrom_nil _ _ _
    · have hnone := lengthAt_definitions_eq_none hkeywords hapart
        (hstart (List.cons_ne_nil _ _)) fun hne => absurd rfl hne
      rw [List.flatMap_cons, Segment.text, List.append_assoc,
        occurrencesFrom_word_of_none hkeywords s hnone, List.flatMap_nil,
        occurrencesFrom_skip hkeywords (Or.inl s.isWord_of_mem_gap)]
      exact occurrencesFrom_nil _ _ _
    · exact absurd rfl (hshort s s' later)

theorem occurrences_definitions (hkeywords : ∀ k ∈ keywords, IsKeyword k) (t : Text) :
    (definitions keywords).occurrences t =
      (pairs (Segment.opens keywords) (segments t)).map fun q => q.1.text ++ q.2.word := by
  obtain ⟨g, hg, hapart, ht⟩ := eq_gap_append_segments t
  conv_lhs => rw [ht]
  exact occurrencesFrom_definitions hkeywords hapart hg fun _ =>
    isWord?_getLast?_or hg (Or.inr rfl)

/-! ## Counting -/

theorem count_words (hkeywords : ∀ k ∈ keywords, IsKeyword k) (t : Text) :
    (words keywords).count t = (segments t).countP (Segment.isOneOf keywords) := by
  rw [count, occurrences_words hkeywords, List.length_map, List.countP_eq_length_filter]

theorem count_definitions (hkeywords : ∀ k ∈ keywords, IsKeyword k) (t : Text) :
    (definitions keywords).count t = (pairs (Segment.opens keywords) (segments t)).length := by
  rw [count, occurrences_definitions hkeywords, List.length_map]

/-- There is a definition if a word opens one and is not the last word. -/
theorem count_definitions_pos (hkeywords : ∀ k ∈ keywords, IsKeyword k) {s : Segment}
    (hs : s ∈ (segments t).dropLast) (hopens : s.opens keywords = true) :
    0 < (definitions keywords).count t := by
  rw [count_definitions hkeywords]
  exact List.length_pos_iff.mpr (pairs_ne_nil hs hopens)

/-- The leftmost definition begins with a word that opens it. -/
theorem exists_of_first?_definitions (hkeywords : ∀ k ∈ keywords, IsKeyword k) {occurrence : Text}
    (h : (definitions keywords).first? t = some occurrence) :
    ∃ s ∈ (segments t).dropLast, s.opens keywords = true ∧
      occurrence.takeWhile isWord = s.word := by
  obtain ⟨-, -, hapart, -⟩ := eq_gap_append_segments t
  rw [first?, occurrences_definitions hkeywords] at h
  obtain ⟨⟨s, s'⟩, hpair, rfl⟩ := List.mem_map.mp (List.mem_of_head? h)
  obtain ⟨hs, hopens⟩ := mem_dropLast_of_mem_pairs hpair
  obtain ⟨c, gap, hgap⟩ := List.exists_cons_of_ne_nil (hapart.gap_ne_nil_of_mem hs)
  have hc : isWord c = false := s.isWord_of_mem_gap c (hgap ▸ List.mem_cons_self)
  refine ⟨s, hs, hopens, ?_⟩
  rw [Segment.text, List.append_assoc, List.takeWhile_append_of_pos s.isWord_of_mem_word, hgap,
    List.cons_append, List.takeWhile_cons_of_neg (by simp [hc]), List.append_nil]

/-! ### Texts that are put together -/

variable {c : Char}

/-- **Texts with no word at the joint have the words of both.** -/
theorem count_words_append_cons (hkeywords : ∀ k ∈ keywords, IsKeyword k) (hc : isWord c = false)
    (s t : Text) :
    (words keywords).count (s ++ c :: t) = (words keywords).count s + (words keywords).count t := by
  simp only [count_words hkeywords]
  rcases segments_append_cons hc s t with ⟨hnil, hsegs⟩ | ⟨segs, x, x', hsegs, hword, hsegs'⟩
  · rw [hnil, hsegs, List.countP_nil, Nat.zero_add]
  · have hkey : x'.isOneOf keywords = x.isOneOf keywords := by
      rw [Segment.isOneOf, hword, Segment.isOneOf]
    simp only [hsegs, hsegs', List.countP_append, List.countP_cons, List.countP_nil, hkey]
    omega

/-- **Texts with no word at the joint have the definitions of both**, and perhaps one more: a
keyword in front of the joint with the word behind it. -/
theorem count_definitions_append_cons (hkeywords : ∀ k ∈ keywords, IsKeyword k)
    (hc : isWord c = false) (s t : Text) :
    (definitions keywords).count s + (definitions keywords).count t ≤
        (definitions keywords).count (s ++ c :: t) ∧
      (definitions keywords).count (s ++ c :: t) ≤
        (definitions keywords).count s + (definitions keywords).count t + 1 := by
  simp only [count_definitions hkeywords]
  rcases segments_append_cons hc s t with ⟨hnil, hsegs⟩ | ⟨segs, x, x', hsegs, -, hsegs'⟩
  · rw [hnil, hsegs]
    simp [pairs]
  · rw [hsegs, hsegs', length_pairs_concat _ segs x x',
      List.append_cons segs x' (segments t)]
    exact length_pairs_append _ (segs ++ [x']) (segments t)

/-- **Blanks around a text change none of its definitions.** -/
theorem count_definitions_trim (hkeywords : ∀ k ∈ keywords, IsKeyword k) (t : Text) :
    (definitions keywords).count (trim t) = (definitions keywords).count t := by
  obtain ⟨u, v, hu, hv, ht⟩ := exists_eq_append_trim t
  have hsegs : segments t = segments (trim t ++ v) := by
    conv_lhs => rw [ht, segments_gap_append fun c hc => isWord_of_isBlank (hu c hc)]
  have hgap (c : Char) (hc : c ∈ v) : isWord c = false := isWord_of_isBlank (hv c hc)
  have hnone : segments v = [] := by
    simpa [segments] using segments_gap_append hgap []
  have hend : isWord? v.head? = false := by
    simpa using isWord?_head?_gap_append hgap (t := []) (Or.inr rfl)
  simp only [count_definitions hkeywords, hsegs]
  rcases segments_append (trim t) hend with ⟨hnil, hsegs⟩ | ⟨segs, s, s', hsegs, -, hsegs'⟩
  · rw [hsegs, hnil, hnone]
  · rw [hsegs, hsegs', hnone]
    exact length_pairs_concat _ segs s s'

end Pattern
end CodeGloss
