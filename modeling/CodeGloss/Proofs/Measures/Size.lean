import CodeGloss.Measures
import CodeGloss.Proofs.Pattern.Keywords
import CodeGloss.Proofs.Scoring
import CodeGloss.Proofs.Text.Lines
import CodeGloss.Proofs.Text.Utf8

/-! # How large measures can get

By default a function counts as much as 5 lines and a class as much as 10.  Still no snippet has more
points than twice its octets, since each point is **paid for** by a character, and no character pays
for more than two points.  A line is paid for by the line feed at its end.  A definition is paid for
by its keyword, which is long enough: two points for each character of `class`, and fewer for `def`
and `function` (`Segment.points_le`).  Different definitions begin with different words, even where
the word that one of them ends with begins another of the other kind; and none begins with the last
word of the snippet (`length_pairs_le_countP`).  So the last word is left to pay for the last line,
which has no line feed.

A text in memory has fewer than `2 ^ 63` octets, and then all tallies fit in 64 bits.  So a snippet
has measures if its points fit (`exists_ofCode_iff_points`), and they are the true ones
(`isExact_of_ofCode`); with the default weights the points always fit (`exists_ofCode_default`).
By these facts what is known of patterns is known of measures.
-/
namespace CodeGloss

open Text

/-! ## The words of a text and its length -/

namespace Text

theorem countP_isWord_gap {g : Text} (hg : ∀ c ∈ g, isWord c = false) : g.countP isWord = 0 := by
  rw [List.countP_eq_zero]
  intro c hc
  rw [hg c hc]
  exact Bool.false_ne_true

/-- The words take up all characters that belong to a word. -/
theorem sum_length_word (t : Text) :
    ((segments t).map fun s => s.word.length).sum = t.countP isWord := by
  obtain ⟨g, hg, -, ht⟩ := eq_gap_append_segments t
  have htext (s : Segment) : s.text.countP isWord = s.word.length := by
    have hword := List.countP_eq_length.mpr s.isWord_of_mem_word
    have hgap := countP_isWord_gap s.isWord_of_mem_gap
    rw [Segment.text, List.countP_append, hword, hgap, Nat.add_zero]
  conv_rhs => rw [ht, List.countP_append, countP_isWord_gap hg, Nat.zero_add, List.countP_flatMap]
  exact congrArg List.sum (List.map_congr_left fun s _ => (htext s).symm)

theorem length_segments_le (t : Text) : (segments t).length ≤ t.countP isWord := by
  rw [← sum_length_word]
  induction segments t with
  | nil => exact Nat.zero_le _
  | cons s later ih =>
    have hword := List.length_pos_iff.mpr s.word_ne_nil
    rw [List.map_cons, List.sum_cons, List.length_cons]
    omega

/-- Every line feed is a character outside of words. -/
theorem countP_isWord_add_count_le (t : Text) : t.countP isWord + t.count '\n' ≤ t.length := by
  have hfeed : t.count '\n' ≤ t.countP fun c => !isWord c := by
    refine List.countP_mono_left fun c _ hc => ?_
    obtain rfl := eq_of_beq hc
    decide
  have hlength := List.length_eq_countP_add_countP isWord (l := t)
  simp only [Bool.not_eq_true, Bool.decide_eq_false] at hlength
  omega

theorem length_le_length_encode (t : Text) : t.length ≤ (Utf8.encode t).length := by
  induction t with
  | nil => exact Nat.zero_le _
  | cons c t ih =>
    have hc := List.length_pos_iff.mpr (Utf8.utf8EncodeChar_ne_nil c)
    rw [Utf8.encode_cons, List.length_append, List.length_cons]
    omega

end Text

/-! ## Points and the characters that pay for them -/

namespace Segment

/-- **A keyword pays for the points of its definition**, two for each of its characters; and no word
is a keyword for both kinds of definitions. -/
theorem points_le (s : Segment) :
    5 * (if s.opens ["def", "function"] then 1 else 0) + 10 * (if s.opens ["class"] then 1 else 0) ≤
      2 * s.word.length := by
  have hlength : (s.word.map fold).length = s.word.length := List.length_map fold
  by_cases hclass : s.opens ["class"] = true
  · have hword : s.word.map fold = "class".toList := by
      simpa [isOneOf] using (Bool.and_eq_true_iff.mp hclass).1
    have hfunction : s.opens ["def", "function"] = false := by
      rw [opens, isOneOf, hword]
      rfl
    rw [hword] at hlength
    rw [hclass, hfunction, ← hlength]
    decide
  · rw [if_neg hclass]
    split
    next hfunction =>
      have hword : s.word.map fold = "def".toList ∨ s.word.map fold = "function".toList := by
        simpa [isOneOf] using (Bool.and_eq_true_iff.mp hfunction).1
      rcases hword with hword | hword <;>
      · rw [hword] at hlength
        rw [← hlength]
        decide
    next => exact Nat.zero_le _

theorem sum_points_le (segs : List Segment) :
    5 * segs.countP (opens ["def", "function"]) + 10 * segs.countP (opens ["class"]) ≤
      2 * (segs.map fun s => s.word.length).sum := by
  induction segs with
  | nil => exact Nat.zero_le _
  | cons s later ih =>
    have hs := s.points_le
    rw [List.countP_cons, List.countP_cons, List.map_cons, List.sum_cons]
    omega

end Segment

namespace Measures

/-! ## The keywords of the measures -/

theorem isKeyword_function : ∀ k ∈ ["def", "function"], Pattern.IsKeyword k := by decide

theorem isKeyword_class : ∀ k ∈ ["class"], Pattern.IsKeyword k := by decide

theorem isKeyword_loop : ∀ k ∈ ["for", "while"], Pattern.IsKeyword k := by decide

theorem isKeyword_conditional : ∀ k ∈ ["if"], Pattern.IsKeyword k := by decide

/-! ## Definitions and lines -/

variable {code : Text}

/-- **The words of a snippet pay for its definitions, and the last word pays for none.** -/
theorem definitions_le (h : segments code ≠ []) :
    5 * functionPattern.count code + 10 * classPattern.count code + 2 ≤
      2 * code.countP isWord := by
  obtain ⟨segs, s, hsegs⟩ := (List.eq_nil_or_concat' (segments code)).resolve_left h
  have hfunctions := length_pairs_le_countP (Segment.opens ["def", "function"]) (segments code)
  have hclasses := length_pairs_le_countP (Segment.opens ["class"]) (segments code)
  rw [← Pattern.count_definitions isKeyword_function, hsegs, List.dropLast_concat] at hfunctions
  rw [← Pattern.count_definitions isKeyword_class, hsegs, List.dropLast_concat] at hclasses
  have hpaid := Segment.sum_points_le segs
  have hlast := List.length_pos_iff.mpr s.word_ne_nil
  rw [← sum_length_word, hsegs, List.map_append, List.sum_append, List.map_singleton,
    List.sum_singleton, functionPattern, classPattern]
  omega

/-- The points of a snippet are at most twice its characters. -/
theorem points_le_length (code : Text) :
    filledLineCount code + 5 * functionPattern.count code + 10 * classPattern.count code ≤
      2 * code.length := by
  have hlines := filledLineCount_le code
  have hlength := countP_isWord_add_count_le code
  by_cases hsegs : segments code = []
  · -- there are no definitions, and all lines but the last have a line feed
    have hfunctions : functionPattern.count code = 0 := by
      rw [functionPattern, Pattern.count_definitions isKeyword_function, hsegs]
      rfl
    have hclasses : classPattern.count code = 0 := by
      rw [classPattern, Pattern.count_definitions isKeyword_class, hsegs]
      rfl
    cases code with
    | nil => decide
    | cons c code =>
      have hpos := (c :: code).length_pos_of_ne_nil (List.cons_ne_nil c code)
      omega
  · have hdefinitions := definitions_le hsegs
    omega

/-! ## Measures that are true -/

/-- The measures say how many there are of each thing, and the score is the sum of the points. -/
structure IsExact (scoring : Scoring) (code : Text) (m : Measures) : Prop where
  lines : m.lines.toNat = filledLineCount code
  functions : m.functions.toNat = functionPattern.count code
  classes : m.classes.toNat = classPattern.count code
  loops : m.loops.toNat = loopPattern.count code
  conditionals : m.conditionals.toNat = conditionalPattern.count code
  score : m.score.toNat = scoring.points (filledLineCount code) (functionPattern.count code)
    (classPattern.count code)

variable {scoring : Scoring} {m : Measures}

theorem exists_ofCode_iff (scoring : Scoring) (code : Text) :
    (∃ m, ofCode scoring code = .ok m) ↔
      ∃ score, scoring.score (filledLineCount code).toUInt64 (functionPattern.count code).toUInt64
        (classPattern.count code).toUInt64 = .ok score := by
  constructor
  · rintro ⟨m, hm⟩
    obtain ⟨score, hscore, -⟩ := bind_eq_ok_iff.mp hm
    exact ⟨score, hscore⟩
  · rintro ⟨score, hscore⟩
    exact ⟨_, bind_eq_ok_iff.mpr ⟨score, hscore, rfl⟩⟩

theorem toNat_toUInt64 {n : Nat} (hcode : (Utf8.encode code).length < 2 ^ 63)
    (h : n ≤ 2 * code.length) : n.toUInt64.toNat = n := by
  have hlength := length_le_length_encode code
  exact UInt64.toNat_ofNat_of_lt' (show n < 2 ^ 64 by omega)

theorem toNat_tallies (hcode : (Utf8.encode code).length < 2 ^ 63) :
    (filledLineCount code).toUInt64.toNat = filledLineCount code ∧
      (functionPattern.count code).toUInt64.toNat = functionPattern.count code ∧
      (classPattern.count code).toUInt64.toNat = classPattern.count code := by
  have hpoints := points_le_length code
  refine ⟨?_, ?_, ?_⟩ <;> exact toNat_toUInt64 hcode (by omega)

theorem count_words_le {keywords : List String} (hkeywords : ∀ k ∈ keywords, Pattern.IsKeyword k)
    (code : Text) : (Pattern.words keywords).count code ≤ 2 * code.length := by
  have hcount := List.countP_le_length (p := Segment.isOneOf keywords) (l := segments code)
  have hsegs := length_segments_le code
  have hlength := countP_isWord_add_count_le code
  rw [Pattern.count_words hkeywords]
  omega

/-- **Measures are true**: no tally is cut down to 64 bits, and no score is. -/
theorem isExact_of_ofCode (hcode : (Utf8.encode code).length < 2 ^ 63)
    (h : ofCode scoring code = .ok m) : IsExact scoring code m := by
  obtain ⟨hlines, hfunctions, hclasses⟩ := toNat_tallies hcode
  obtain ⟨score, hscore, hm⟩ := bind_eq_ok_iff.mp h
  obtain rfl := Except.ok.inj hm
  have htrue := Scoring.toNat_score hscore
  rw [hlines, hfunctions, hclasses] at htrue
  exact {
    lines := hlines
    functions := hfunctions
    classes := hclasses
    loops := toNat_toUInt64 hcode (count_words_le isKeyword_loop code)
    conditionals := toNat_toUInt64 hcode (count_words_le isKeyword_conditional code)
    score := htrue }

/-- **There are measures if and only if the points fit in 64 bits.** -/
theorem exists_ofCode_iff_points (scoring : Scoring) (hcode : (Utf8.encode code).length < 2 ^ 63) :
    (∃ m, ofCode scoring code = .ok m) ↔
      scoring.points (filledLineCount code) (functionPattern.count code)
        (classPattern.count code) < 2 ^ 64 := by
  obtain ⟨hlines, hfunctions, hclasses⟩ := toNat_tallies hcode
  rw [exists_ofCode_iff, Scoring.exists_score_iff, hlines, hfunctions, hclasses]

/-- By the default weights every snippet that fits in memory has measures. -/
theorem exists_ofCode_default (hcode : (Utf8.encode code).length < 2 ^ 63) :
    ∃ m, ofCode {} code = .ok m := by
  have hpoints := points_le_length code
  have hlength := length_le_length_encode code
  have hsum : Scoring.points {} (filledLineCount code) (functionPattern.count code)
      (classPattern.count code) =
        filledLineCount code + 5 * functionPattern.count code + 10 * classPattern.count code := by
    rw [Scoring.points, Nat.mul_comm 5, Nat.mul_comm 10]
    rfl
  exact (exists_ofCode_iff_points {} hcode).mpr (by omega)

/-- **No snippet has more points than twice its octets, by the default weights**; so every snippet
that fits in memory has measures, and they are true. -/
theorem points_le_octets (code : Text) :
    filledLineCount code + 5 * functionPattern.count code + 10 * classPattern.count code ≤
        2 * (Utf8.encode code).length ∧
      ((Utf8.encode code).length ≤ 2 ^ 63 - 1 →
        ∃ m, ofCode {} code = .ok m ∧ IsExact {} code m) := by
  have hpoints := points_le_length code
  have hlength := length_le_length_encode code
  constructor
  · omega
  · intro hcode
    have hcode : (Utf8.encode code).length < 2 ^ 63 := by omega
    obtain ⟨m, hm⟩ := exists_ofCode_default hcode
    exact ⟨m, hm, isExact_of_ofCode hcode hm⟩

/-- In `class def x` the word `def` ends the one definition and begins the other. -/
theorem points_le_octets_class_def : ∃ m, ofCode {} "class def x".toList = .ok m ∧
    m.score.toNat = 16 := by
  obtain ⟨m, hm, hexact⟩ := (points_le_octets "class def x".toList).2 (by decide)
  exact ⟨m, hm, hexact.score⟩

end Measures
end CodeGloss
