import CodeGloss.Conversation.Basic
import CodeGloss.Proofs.Explanation
import CodeGloss.Proofs.Pattern.Padding
import Mathlib.Algebra.BigOperators.Group.List.Basic

/-! # Blanks around a snippet

A message of a conversation is trimmed before it is explained; a snippet that is read from a file is
not.  To the measures this makes no difference (`Measures.ofCode_padded`).  It makes none to most
clues either, but four of them are a word with a gap behind it: `echo` for PHP, and `SELECT`, `FROM`
and `WHERE` for SQL (`Language.spacedWords`).  Such a clue is found once more if there are blanks
behind a snippet that ends with the word.

None of the words ends with another one of them, so no snippet ends with two.  Hence there is more
evidence of at most one language, and by one (`Language.tallies_padded`).
-/
namespace CodeGloss

open Text

variable {u v t : Text}

/-- Of things that exclude each other there is one or none. -/
theorem sum_map_ite_of_pairwise {α : Type} {xs : List α} {p : α → Prop} [DecidablePred p]
    (h : xs.Pairwise fun x y => ¬ (p x ∧ p y)) :
    (xs.map fun x => if p x then 1 else 0).sum = if ∃ x ∈ xs, p x then 1 else 0 := by
  induction xs with
  | nil => simp
  | cons x xs ih =>
    obtain ⟨hx, hxs⟩ := List.pairwise_cons.mp h
    rw [List.map_cons, List.sum_cons, ih hxs]
    by_cases hpx : p x
    · have hnone : ¬ ∃ y ∈ xs, p y := fun ⟨y, hy, hpy⟩ => hx y hy ⟨hpx, hpy⟩
      rw [if_pos hpx, if_neg hnone, if_pos ⟨x, List.mem_cons_self, hpx⟩]
    · simp [hpx]

/-! ## Measures -/

namespace Measures

theorem count_words_padded {keywords : List String} (hkeywords : ∀ k ∈ keywords, Pattern.IsKeyword k)
    (hends : (Pattern.words keywords).endsBeforeBlanks = true) (hu : ∀ c ∈ u, isBlank c = true)
    (hv : ∀ c ∈ v, isBlank c = true) (t : Text) :
    (Pattern.words keywords).count (u ++ (t ++ v)) = (Pattern.words keywords).count t := by
  rw [Pattern.count_words hkeywords, segments_gap_append fun c hc => isWord_of_isBlank (hu c hc),
    ← Pattern.count_words hkeywords, Pattern.count_append_blanks hends hv]

theorem count_definitions_padded {keywords : List String}
    (hkeywords : ∀ k ∈ keywords, Pattern.IsKeyword k)
    (hends : (Pattern.definitions keywords).endsBeforeBlanks = true)
    (hu : ∀ c ∈ u, isBlank c = true) (hv : ∀ c ∈ v, isBlank c = true) (t : Text) :
    (Pattern.definitions keywords).count (u ++ (t ++ v)) = (Pattern.definitions keywords).count t := by
  rw [Pattern.count_definitions hkeywords,
    segments_gap_append fun c hc => isWord_of_isBlank (hu c hc),
    ← Pattern.count_definitions hkeywords, Pattern.count_append_blanks hends hv]

/-- **Blanks around a snippet change none of its measures.** -/
theorem ofCode_padded (hu : ∀ c ∈ u, isBlank c = true) (hv : ∀ c ∈ v, isBlank c = true) (t : Text)
    (scoring : Scoring) : ofCode scoring (u ++ (t ++ v)) = ofCode scoring t := by
  have hfunctions : functionPattern.count (u ++ (t ++ v)) = functionPattern.count t :=
    count_definitions_padded isKeyword_function (by decide) hu hv t
  have hclasses : classPattern.count (u ++ (t ++ v)) = classPattern.count t :=
    count_definitions_padded isKeyword_class (by decide) hu hv t
  have hloops : loopPattern.count (u ++ (t ++ v)) = loopPattern.count t :=
    count_words_padded isKeyword_loop (by decide) hu hv t
  have hconditionals : conditionalPattern.count (u ++ (t ++ v)) = conditionalPattern.count t :=
    count_words_padded isKeyword_conditional (by decide) hu hv t
  simp only [ofCode, filledLineCount_padded hu hv, hfunctions, hclasses, hloops, hconditionals]

end Measures

/-! ## Clues -/

namespace Language

open Pattern

/-- The words that are clues of the language with a gap behind them. -/
def spacedWords : Language → List String
  | php => ["echo"]
  | sql => ["SELECT", "FROM", "WHERE"]
  | _ => []

/-- The clues of the language that stop at blanks. -/
def plainClues (l : Language) : List (List Piece) :=
  l.clues.filter fun clue => endsBeforeBlanks ⟨[clue]⟩

/-- **Every clue stops at blanks or is a word with a gap behind it.** -/
theorem clues_eq (l : Language) : l.clues = l.plainClues ++ l.spacedWords.map spacedWord := by
  cases l <;> decide +kernel

theorem nodup_spacedWords (l : Language) : l.spacedWords.Nodup := by
  cases l <;> decide

/-- Evidence comes from the clues that stop at blanks and from the words. -/
theorem evidence_eq_sum (l : Language) (code : Text) : l.evidence code =
    (l.plainClues.map fun clue => count ⟨[clue]⟩ code).sum +
      (l.spacedWords.map fun word => count ⟨[spacedWord word]⟩ code).sum := by
  have hsum : l.evidence code = (l.clues.map fun clue => count ⟨[clue]⟩ code).sum := rfl
  rw [hsum, clues_eq, List.map_append, List.sum_append, List.map_map]
  rfl

theorem spacedWord_mem_clues {l : Language} {word : String} (h : word ∈ l.spacedWords) :
    spacedWord word ∈ l.clues := by
  rw [clues_eq]
  exact List.mem_append_right _ (List.mem_map_of_mem h)

theorem isSpaceable_spacedWords {l : Language} {word : String} (h : word ∈ l.spacedWords) :
    IsSpaceable word := by
  have hall : ∀ l ∈ all, ∀ word ∈ l.spacedWords, IsSpaceable word := by decide +kernel
  exact hall l (mem_all l) word h

/-- None of the words ends with another one of them. -/
theorem eq_of_endsWith_spacedWord {l l' : Language} {word word' : String}
    (hword : word ∈ l.spacedWords) (hword' : word' ∈ l'.spacedWords)
    (h : endsWith word.toList word'.toList = true) : l = l' ∧ word = word' := by
  have hall : ∀ l ∈ all, ∀ l' ∈ all, ∀ word ∈ l.spacedWords, ∀ word' ∈ l'.spacedWords,
      endsWith word.toList word'.toList = true → l = l' ∧ word = word' := by decide +kernel
  exact hall l (mem_all l) l' (mem_all l') word hword word' hword' h

/-- **No text ends with two of the words.** -/
theorem eq_of_endsWith {l l' : Language} {word word' : String} (hword : word ∈ l.spacedWords)
    (hword' : word' ∈ l'.spacedWords) (h : endsWith word.toList t = true)
    (h' : endsWith word'.toList t = true) : l = l' ∧ word = word' := by
  rcases List.suffix_or_suffix_of_suffix (endsWith_iff.mp h) (endsWith_iff.mp h') with hends | hends
  · exact eq_of_endsWith_spacedWord hword hword' (endsWith_iff.mpr hends)
  · obtain ⟨hl, hw⟩ := eq_of_endsWith_spacedWord hword' hword (endsWith_iff.mpr hends)
    exact ⟨hl.symm, hw.symm⟩

section Padded

variable {l : Language} (hu : ∀ c ∈ u, isBlank c = true) (hv : ∀ c ∈ v, isBlank c = true)

include hu hv

theorem count_plainClue_padded {clue : List Piece} (hclue : clue ∈ l.plainClues) (t : Text) :
    count ⟨[clue]⟩ (u ++ (t ++ v)) = count ⟨[clue]⟩ t := by
  obtain ⟨hmem, hends⟩ := List.mem_filter.mp hclue
  rw [count_blanks_append (partedByComments_clues l clue hmem) hu, count_append_blanks hends hv]

theorem count_spacedWord_padded {word : String} (hword : word ∈ l.spacedWords) (t : Text) :
    count ⟨[spacedWord word]⟩ (u ++ (t ++ v)) = count ⟨[spacedWord word]⟩ t +
      if v ≠ [] ∧ endsWith word.toList t = true then 1 else 0 := by
  rw [count_blanks_append (partedByComments_clues l _ (spacedWord_mem_clues hword)) hu,
    count_spacedWord_append (isSpaceable_spacedWords hword) hv]

/-- **Blanks behind a snippet are evidence** of a language if the snippet ends with one of its words. -/
theorem evidence_padded (l : Language) (t : Text) :
    l.evidence (u ++ (t ++ v)) = l.evidence t +
      if v ≠ [] ∧ ∃ word ∈ l.spacedWords, endsWith word.toList t = true then 1 else 0 := by
  have hplain : l.plainClues.map (fun clue => count ⟨[clue]⟩ (u ++ (t ++ v))) =
      l.plainClues.map fun clue => count ⟨[clue]⟩ t :=
    List.map_congr_left fun clue hclue => count_plainClue_padded hu hv hclue t
  have hspaced : l.spacedWords.map (fun word => count ⟨[spacedWord word]⟩ (u ++ (t ++ v))) =
      l.spacedWords.map fun word => count ⟨[spacedWord word]⟩ t +
        if v ≠ [] ∧ endsWith word.toList t = true then 1 else 0 :=
    List.map_congr_left fun word hword => count_spacedWord_padded hu hv hword t
  have hapart : l.spacedWords.Pairwise fun word word' =>
      ¬ ((v ≠ [] ∧ endsWith word.toList t = true) ∧ v ≠ [] ∧ endsWith word'.toList t = true) :=
    (nodup_spacedWords l).imp_of_mem fun hword hword' hne h =>
      hne (eq_of_endsWith hword hword' h.1.2 h.2.2).2
  have hends : (∃ word ∈ l.spacedWords, v ≠ [] ∧ endsWith word.toList t = true) ↔
      v ≠ [] ∧ ∃ word ∈ l.spacedWords, endsWith word.toList t = true := by
    constructor
    · rintro ⟨word, hword, hne, hend⟩
      exact ⟨hne, word, hword, hend⟩
    · rintro ⟨hne, word, hword, hend⟩
      exact ⟨word, hword, hne, hend⟩
  rw [evidence_eq_sum, evidence_eq_sum, hplain, hspaced, List.sum_map_add,
    sum_map_ite_of_pairwise hapart, Nat.add_assoc]
  simp only [hends]

end Padded

/-- **What blanks around a snippet change.**  They change none of its measures, and a clue is found as
often with them as without, unless it is a word with a gap behind it.  Such a clue is found once more
if and only if there are blanks behind the snippet and the snippet ends with the word.  So there is
more evidence of at most one language, and by one. -/
theorem tallies_padded (hu : ∀ c ∈ u, isBlank c = true) (hv : ∀ c ∈ v, isBlank c = true) (t : Text) :
    (∀ scoring, Measures.ofCode scoring (u ++ (t ++ v)) = Measures.ofCode scoring t) ∧
      (∀ l : Language, ∀ clue ∈ l.clues, clue ∉ l.spacedWords.map spacedWord →
        count ⟨[clue]⟩ (u ++ (t ++ v)) = count ⟨[clue]⟩ t) ∧
      (∀ l : Language, ∀ word ∈ l.spacedWords, spacedWord word ∈ l.clues ∧
        count ⟨[spacedWord word]⟩ (u ++ (t ++ v)) = count ⟨[spacedWord word]⟩ t +
          if v ≠ [] ∧ endsWith word.toList t = true then 1 else 0) ∧
      (∀ l : Language, l.evidence (u ++ (t ++ v)) = l.evidence t ∨
        l.evidence (u ++ (t ++ v)) = l.evidence t + 1) ∧
      ∀ l l' : Language, l.evidence (u ++ (t ++ v)) ≠ l.evidence t →
        l'.evidence (u ++ (t ++ v)) ≠ l'.evidence t → l = l' := by
  refine ⟨Measures.ofCode_padded hu hv t, fun l clue hclue hplain => ?_,
    fun l word hword => ⟨spacedWord_mem_clues hword, count_spacedWord_padded hu hv hword t⟩,
    fun l => ?_, fun l l' h h' => ?_⟩
  · rw [clues_eq] at hclue
    exact count_plainClue_padded hu hv ((List.mem_append.mp hclue).resolve_right hplain) t
  · rw [evidence_padded hu hv]
    split
    · exact Or.inr rfl
    · exact Or.inl rfl
  · have hends {l : Language} (h : l.evidence (u ++ (t ++ v)) ≠ l.evidence t) :
        ∃ word ∈ l.spacedWords, endsWith word.toList t = true := by
      by_contra hnone
      rw [evidence_padded hu hv, if_neg fun hword => hnone hword.2] at h
      exact h rfl
    obtain ⟨word, hword, hend⟩ := hends h
    obtain ⟨word', hword', hend'⟩ := hends h'
    exact (eq_of_endsWith hword hword' hend hend').1

/-- A query that breaks off behind `From`, with a line end or without. -/
theorem tallies_padded_query :
    let query : Text := "select x\nFrom".toList
    sql.evidence query = 1 ∧ sql.evidence ("\t".toList ++ (query ++ "\r\n".toList)) = 2 ∧
      ∀ scoring, Measures.ofCode scoring ("\t".toList ++ (query ++ "\r\n".toList)) =
        Measures.ofCode scoring query := by
  intro query
  have hblank : ∀ c ∈ "\t".toList, isBlank c = true := allBlank_eq_true_iff.mp (by decide)
  have hblank' : ∀ c ∈ "\r\n".toList, isBlank c = true := allBlank_eq_true_iff.mp (by decide)
  obtain ⟨hmeasures, -, -, hevidence, -⟩ := tallies_padded hblank hblank' query
  have hquery : sql.evidence query = 1 := by decide +kernel
  have hpadded : sql.evidence ("\t".toList ++ (query ++ "\r\n".toList)) ≠ sql.evidence query := by
    decide +kernel
  exact ⟨hquery, ((hevidence sql).resolve_left hpadded).trans (by rw [hquery]), hmeasures⟩

end Language

/-! ## Messages -/

namespace Conversation

variable {settings : Settings} {message : Text} {e : Explanation} {kind : MessageKind}

theorem ofCode_of_answerTo (h : answerTo settings message = .ok (.explanation e, kind)) :
    Explanation.ofCode settings message = .ok e := by
  unfold answerTo at h
  split at h
  · cases h
  · cases h
  · split at h
    · cases he : Explanation.ofCode settings message with
      | error overflow =>
        rw [he] at h
        cases h
      | ok e' =>
        rw [he] at h
        cases h
        rfl
    · cases h

/-- **A message is explained with the measures of what was typed**, blanks and all.  What was typed is
evidence of each language as the message is, but for one occurrence of a clue at most. -/
theorem explanation_of_take {c c' : Conversation} {input : Text}
    (h : c.take input = .ok (.explanation e, c')) :
    Measures.ofCode c.settings.scoring input = .ok e.measures ∧
      ∀ l : Language, l.evidence (trim input) ≤ l.evidence input ∧
        l.evidence input ≤ l.evidence (trim input) + 1 := by
  obtain ⟨⟨answer, kind⟩, hanswer, hentry⟩ := bind_eq_ok_iff.mp h
  obtain rfl : answer = .explanation e := (Prod.mk.inj (Except.ok.inj hentry)).1
  obtain ⟨u, v, hu, hv, hinput⟩ := exists_eq_append_trim input
  constructor
  · rw [hinput, Measures.ofCode_padded hu hv]
    exact Explanation.ofCode_measures (ofCode_of_answerTo hanswer)
  · intro l
    have hevidence := Language.evidence_padded hu hv l (trim input)
    rw [← hinput] at hevidence
    split at hevidence <;> omega

end Conversation
end CodeGloss
