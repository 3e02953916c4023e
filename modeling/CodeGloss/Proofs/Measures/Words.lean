import CodeGloss.LineKind
import CodeGloss.Proofs.Measures.Size
import CodeGloss.Proofs.Pattern.Choice

/-! # What is found are words

The tallies and the kinds of lines that define something look for occurrences of patterns, character
by character.  What they find can be told by the words of a text (`segments`): loops and
conditionals are the words that are keywords, and a definition is a pair of neighbouring words, of
which the first is a keyword that **announces** a name: only blanks stand behind it, and at least
one.

The measures take definitions from the left.  A keyword can be the name behind another keyword, so
it matters where one begins; but from the left there are as many as in any choice of disjoint pairs.
A line is understood by the first pair in it (`Measures.tallies_of_words`).
-/
namespace CodeGloss

open Text

variable {keywords : List String}

/-- Whether the word announces a name: it is a keyword with only blanks behind it, and at least
one. -/
def Segment.announces (keywords : List String) (s : Segment) : Bool :=
  s.isOneOf keywords && (!s.gap.isEmpty && s.gap.all isBlank)

theorem Segment.gap_ne_nil_of_announces {s : Segment} (h : s.announces keywords = true) :
    s.gap ≠ [] := by
  rintro hnil
  simp [Segment.announces, hnil] at h

namespace Text

/-- Words of a text never touch, so the keywords that open a definition announce its name. -/
theorem pairs_opens_segments (keywords : List String) (t : Text) :
    pairs (Segment.opens keywords) (segments t) =
      pairs (Segment.announces keywords) (segments t) := by
  obtain ⟨-, -, hapart, -⟩ := eq_gap_append_segments t
  refine pairs_congr fun s hs => ?_
  have hgap : s.gap.isEmpty = false :=
    List.isEmpty_eq_false_iff.mpr (hapart.gap_ne_nil_of_mem hs)
  rw [Segment.opens, Segment.announces, hgap, Bool.not_false, Bool.true_and]

/-- A text that ends with a word behind a gap ends with no longer one. -/
theorem lastWord_text_append {s : Segment} (h : s.gap ≠ []) (s' : Segment) :
    lastWord (s.text ++ s'.word) = s'.word := by
  have hreverse : (s.text ++ s'.word).reverse =
      s'.word.reverse ++ (s.gap.reverse ++ s.word.reverse) := by
    simp [Segment.text]
  have hword : ∀ c ∈ s'.word.reverse, isWord c = true := fun c hc =>
    s'.isWord_of_mem_word c (List.mem_reverse.mp hc)
  obtain ⟨c, gap, hgap⟩ := List.exists_cons_of_ne_nil (mt List.reverse_eq_nil_iff.mp h)
  have hc : ¬ isWord c = true := by
    have hmem : c ∈ s.gap.reverse := hgap ▸ List.mem_cons_self
    simp [s.isWord_of_mem_gap c (List.mem_reverse.mp hmem)]
  rw [lastWord, hreverse, List.takeWhile_append_of_pos hword, hgap, List.cons_append,
    List.takeWhile_cons_of_neg hc, List.append_nil, List.reverse_reverse]

end Text

/-! ## Definitions -/

namespace Pattern

/-- **The definitions that are counted are a largest choice of pairs.** -/
theorem isGreatest_count_definitions (hkeywords : ∀ k ∈ keywords, IsKeyword k) (t : Text) :
    IsGreatest (choiceSizes (Segment.announces keywords) (segments t))
      ((definitions keywords).count t) := by
  rw [count_definitions hkeywords, pairs_opens_segments]
  exact isGreatest_length_pairs _ _

-- the pair of the second and the third keyword is in a choice too, but in none of two pairs
example : (definitions ["class"]).count "class class class A".toList = 2 := by
  decide +kernel

end Pattern

namespace LineKind

/-- **The name that is defined in a line is the second word of the first pair.** -/
theorem definedName?_definitions (hkeywords : ∀ k ∈ keywords, Pattern.IsKeyword k) (line : Text) :
    definedName? (.definitions keywords) line =
      (firstPair? (Segment.announces keywords) (segments line)).map fun pair => pair.2.word := by
  rw [definedName?, Pattern.first?, Pattern.occurrences_definitions hkeywords,
    pairs_opens_segments, List.head?_map, Option.map_map, ← head?_pairs]
  refine Option.map_congr fun pair hpair => ?_
  obtain ⟨-, hannounces⟩ := mem_dropLast_of_mem_pairs (List.mem_of_head? hpair)
  exact lastWord_text_append (Segment.gap_ne_nil_of_announces hannounces) pair.2

/-- A kind that knows its lines by pairs of words: it recognises the lines in which one of the
keywords announces a name, and it speaks of the first name that is announced. -/
def SpeaksOfPairs (kind : LineKind) (keywords : List String) (remarkOn : Text → Text) : Prop :=
  ∀ line, ((kind.remark? line).isSome = true ↔
      ∃ pair ∈ neighbours (segments line), pair.1.announces keywords = true) ∧
    kind.remark? line = (firstPair? (Segment.announces keywords) (segments line)).map fun pair =>
      remarkOn pair.2.word

theorem speaksOfPairs_of_definedName? {kind : LineKind} {remarkOn : Text → Text}
    (hkeywords : ∀ k ∈ keywords, Pattern.IsKeyword k)
    (h : ∀ line, kind.remark? line = (definedName? (.definitions keywords) line).map remarkOn) :
    kind.SpeaksOfPairs keywords remarkOn := by
  intro line
  have hremark : kind.remark? line =
      (firstPair? (Segment.announces keywords) (segments line)).map fun pair =>
        remarkOn pair.2.word := by
    rw [h, definedName?_definitions hkeywords, Option.map_map]
    rfl
  refine ⟨?_, hremark⟩
  rw [hremark, Option.isSome_map, firstPair?, List.find?_isSome]

end LineKind

/-! ## Measures and kinds of lines -/

namespace Measures

/-- **What the measures count and what defines something in a line are words**: single keywords, a
largest choice of disjoint pairs of a keyword and a name, and the first such pair. -/
theorem tallies_of_words (code : Text) :
    ((Utf8.encode code).length < 2 ^ 63 →
      (∃ m, ofCode {} code = .ok m) ∧
        ∀ (scoring : Scoring) (m : Measures), ofCode scoring code = .ok m →
          m.loops.toNat = (segments code).countP (Segment.isOneOf ["for", "while"]) ∧
          m.conditionals.toNat = (segments code).countP (Segment.isOneOf ["if"]) ∧
          IsGreatest (choiceSizes (Segment.announces ["def", "function"]) (segments code))
            m.functions.toNat ∧
          IsGreatest (choiceSizes (Segment.announces ["class"]) (segments code))
            m.classes.toNat) ∧
      LineKind.newFunction.SpeaksOfPairs ["def", "function", "func"]
        (fun name => "Define function: ".toList ++ Phrase.ofName name) ∧
      LineKind.newClass.SpeaksOfPairs ["class"]
        (fun name => "Define a new class named ".toList ++ name) := by
  refine ⟨fun hcode => ⟨exists_ofCode_default hcode, fun scoring m h => ?_⟩, ?_, ?_⟩
  · have hexact := isExact_of_ofCode hcode h
    rw [hexact.loops, hexact.conditionals, hexact.functions, hexact.classes]
    refine ⟨?_, ?_, ?_, ?_⟩
    · exact Pattern.count_words isKeyword_loop code
    · exact Pattern.count_words isKeyword_conditional code
    · exact Pattern.isGreatest_count_definitions isKeyword_function code
    · exact Pattern.isGreatest_count_definitions isKeyword_class code
  · exact LineKind.speaksOfPairs_of_definedName? (by decide) fun _ => rfl
  · exact LineKind.speaksOfPairs_of_definedName? isKeyword_class fun _ => rfl

/-- The word `def` is the name in one pair and the keyword in another one. -/
theorem tallies_of_words_class_def :
    let code : Text := "while x:\n  if y: class def z".toList
    ∃ m, ofCode {} code = .ok m ∧
      m.loops.toNat = (segments code).countP (Segment.isOneOf ["for", "while"]) ∧
      m.conditionals.toNat = (segments code).countP (Segment.isOneOf ["if"]) ∧
      IsGreatest (choiceSizes (Segment.announces ["def", "function"]) (segments code))
        m.functions.toNat ∧
      IsGreatest (choiceSizes (Segment.announces ["class"]) (segments code)) m.classes.toNat ∧
      m.functions.toNat = 1 ∧ m.classes.toNat = 1 := by
  intro code
  have hcode : (Utf8.encode code).length < 2 ^ 63 := by decide
  obtain ⟨⟨m, hm⟩, htallies⟩ := (tallies_of_words code).1 hcode
  obtain ⟨hloops, hconditionals, hfunctions, hclasses⟩ := htallies {} m hm
  have hexact := isExact_of_ofCode hcode hm
  exact ⟨m, hm, hloops, hconditionals, hfunctions, hclasses, hexact.functions, hexact.classes⟩

end Measures
end CodeGloss
