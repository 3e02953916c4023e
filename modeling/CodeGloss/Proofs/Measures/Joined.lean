import CodeGloss.Proofs.Measures.Size

/-! # The tallies of snippets that are joined

Two snippets are joined by setting one below the other.  No word goes on across the line feed at
the joint, so lines, loops and conditionals add up.  A definition may have its keyword in the last
line of the one snippet and its name in the first line of the other; it is not one of either, and it
can take a word from the definitions of the second, but in all there is at most one more.

So no tally of a part is larger than that of the whole, and where the whole has measures the parts
have measures too (`exists_ofCode_of_le`).
-/
namespace CodeGloss
namespace Measures

open Text

/-- A snippet with no larger tallies has measures, too. -/
theorem exists_ofCode_of_le {scoring : Scoring} {code whole : Text} {m : Measures}
    (hwhole : (Utf8.encode whole).length < 2 ^ 63) (h : ofCode scoring whole = .ok m)
    (hcode : (Utf8.encode code).length < 2 ^ 63)
    (hlines : filledLineCount code ≤ filledLineCount whole)
    (hfunctions : functionPattern.count code ≤ functionPattern.count whole)
    (hclasses : classPattern.count code ≤ classPattern.count whole) :
    ∃ part, ofCode scoring code = .ok part := by
  have hfits := (exists_ofCode_iff_points scoring hwhole).mp ⟨m, h⟩
  have hpoints : scoring.points (filledLineCount code) (functionPattern.count code)
      (classPattern.count code) ≤ scoring.points (filledLineCount whole)
        (functionPattern.count whole) (classPattern.count whole) :=
    Scoring.points_mono (UInt64.le_refl _) (UInt64.le_refl _) hlines hfunctions hclasses
  exact (exists_ofCode_iff_points scoring hcode).mpr (Nat.lt_of_le_of_lt hpoints hfits)

/-- **Tallies of snippets that are joined**: lines, loops and conditionals add up, and the
definitions of functions and those of classes do so but for one that may come in at the joint.  So
do the measures, whatever the scoring by which the whole has any. -/
theorem count_append_lineFeed (s t : Text) :
    filledLineCount (s ++ '\n' :: t) = filledLineCount s + filledLineCount t ∧
      loopPattern.count (s ++ '\n' :: t) = loopPattern.count s + loopPattern.count t ∧
      conditionalPattern.count (s ++ '\n' :: t) =
        conditionalPattern.count s + conditionalPattern.count t ∧
      (functionPattern.count s + functionPattern.count t ≤ functionPattern.count (s ++ '\n' :: t) ∧
        functionPattern.count (s ++ '\n' :: t) ≤
          functionPattern.count s + functionPattern.count t + 1) ∧
      (classPattern.count s + classPattern.count t ≤ classPattern.count (s ++ '\n' :: t) ∧
        classPattern.count (s ++ '\n' :: t) ≤
          classPattern.count s + classPattern.count t + 1) ∧
      ((Utf8.encode (s ++ '\n' :: t)).length < 2 ^ 63 →
        (∃ m, ofCode {} (s ++ '\n' :: t) = .ok m) ∧
          ∀ (scoring : Scoring) (m : Measures), ofCode scoring (s ++ '\n' :: t) = .ok m →
            ∃ a b : Measures, ofCode scoring s = .ok a ∧ ofCode scoring t = .ok b ∧
              m.lines.toNat = a.lines.toNat + b.lines.toNat ∧
              m.loops.toNat = a.loops.toNat + b.loops.toNat ∧
              m.conditionals.toNat = a.conditionals.toNat + b.conditionals.toNat ∧
              (a.functions.toNat + b.functions.toNat ≤ m.functions.toNat ∧
                m.functions.toNat ≤ a.functions.toNat + b.functions.toNat + 1) ∧
              (a.classes.toNat + b.classes.toNat ≤ m.classes.toNat ∧
                m.classes.toNat ≤ a.classes.toNat + b.classes.toNat + 1)) := by
  have hjoint : isWord '\n' = false := by decide
  have hlines := filledLineCount_append s t
  have hloops := Pattern.count_words_append_cons isKeyword_loop hjoint s t
  have hconditionals := Pattern.count_words_append_cons isKeyword_conditional hjoint s t
  have hfunctions := Pattern.count_definitions_append_cons isKeyword_function hjoint s t
  have hclasses := Pattern.count_definitions_append_cons isKeyword_class hjoint s t
  rw [← functionPattern] at hfunctions
  rw [← classPattern] at hclasses
  refine ⟨hlines, hloops, hconditionals, hfunctions, hclasses, fun hcode => ?_⟩
  refine ⟨exists_ofCode_default hcode, fun scoring m h => ?_⟩
  have hoctets : (Utf8.encode (s ++ '\n' :: t)).length =
      (Utf8.encode s).length + (1 + (Utf8.encode t).length) := by
    rw [Utf8.encode_append, Utf8.encode_cons, List.length_append, List.length_append]
    rfl
  have hs : (Utf8.encode s).length < 2 ^ 63 := by omega
  have ht : (Utf8.encode t).length < 2 ^ 63 := by omega
  obtain ⟨a, ha⟩ : ∃ a, ofCode scoring s = .ok a :=
    exists_ofCode_of_le hcode h hs (by omega) (by omega) (by omega)
  obtain ⟨b, hb⟩ : ∃ b, ofCode scoring t = .ok b :=
    exists_ofCode_of_le hcode h ht (by omega) (by omega) (by omega)
  have hm := isExact_of_ofCode hcode h
  have hsa := isExact_of_ofCode hs ha
  have htb := isExact_of_ofCode ht hb
  refine ⟨a, b, ha, hb, ?_⟩
  rw [hm.lines, hm.loops, hm.conditionals, hm.functions, hm.classes, hsa.lines, hsa.loops,
    hsa.conditionals, hsa.functions, hsa.classes, htb.lines, htb.loops, htb.conditionals,
    htb.functions, htb.classes]
  exact ⟨hlines, hloops, hconditionals, hfunctions, hclasses⟩

/-- A definition that comes in at the joint takes the keyword of the one below it. -/
theorem count_append_lineFeed_class : ∃ m a b : Measures,
    ofCode {} "class\nclass class A".toList = .ok m ∧ ofCode {} "class".toList = .ok a ∧
      ofCode {} "class class A".toList = .ok b ∧ m.lines.toNat = a.lines.toNat + b.lines.toNat ∧
      m.classes.toNat ≤ a.classes.toNat + b.classes.toNat + 1 ∧
      a.classes.toNat = 0 ∧ b.classes.toNat = 1 ∧ m.classes.toNat = 2 := by
  obtain ⟨-, -, -, -, -, hmeasures⟩ := count_append_lineFeed "class".toList "class class A".toList
  obtain ⟨⟨m, hm⟩, hjoined⟩ := hmeasures (by decide)
  obtain ⟨a, b, ha, hb, hlines, -, -, -, -, hclasses⟩ := hjoined {} m hm
  refine ⟨m, a, b, hm, ha, hb, hlines, hclasses, ?_, ?_, ?_⟩
  · exact (isExact_of_ofCode (by decide) ha).classes
  · exact (isExact_of_ofCode (by decide) hb).classes
  · exact (isExact_of_ofCode (by decide) hm).classes

end Measures
end CodeGloss
