import CodeGloss.Proofs.Explanation.Rendering

/-! # Reading a summary back

A summary leaves out the tallies that are zero, and two kinds of things are counted with the same
verb.  Still nothing is lost: the words of a line stand between spaces, the last of them says what is
counted, and no two kinds share a name for one or for several of their things
(`Measures.pairwise_apart_tallies`).  So the number of things of a kind can be looked up in the lines,
and is zero if none of them tells it (`Tally.countIn_filterMap_line?`).

With the two lines above the tallies this gives the language and all measures back
(`Measures.readBack_inPlainWords`), whatever they are, and summaries are the same only for the same
language and measures (`Measures.inPlainWords_eq_iff`).
-/
namespace CodeGloss

open Text

/-! ## Numbers and words -/

namespace Text

/-- The number that decimal digits stand for. -/
def number (digits : Text) : UInt64 :=
  UInt64.ofNat (Nat.ofDigitChars 10 digits 0)

theorem number_decimal64 (n : UInt64) : number (decimal64 n) = n := by
  have hvalue : Nat.ofDigitChars 10 (decimal64 n) 0 = n.toNat := Nat.ofDigitChars_ten_toDigits
  rw [number, hvalue, UInt64.ofNat_toNat]

theorem space_not_mem_decimal64 (n : UInt64) : ' ' ∉ decimal64 n := fun h =>
  absurd (isDigit_of_mem_decimal64 h) (by decide)

end Text

/-! ## Tallies -/

namespace Tally

/-- What the things are called, one of them or several. -/
def nouns (t : Tally) : List Text :=
  [t.singular, t.plural]

/-- Whether no word of the tally has a space in it. -/
def IsPlain (t : Tally) : Prop :=
  ' ' ∉ t.verb ∧ ∀ noun ∈ t.nouns, ' ' ∉ noun

/-- Whether two tallies are of things with different names. -/
def Apart (t s : Tally) : Prop :=
  t.nouns.Disjoint s.nouns

/-- The number of things with one of the names that a line tells. -/
def countIn? (nouns : List Text) (line : Text) : Option UInt64 :=
  match split ' ' line with
  | [_, _, digits, noun] => if nouns.any fun n => n = noun then some (number digits) else none
  | _ => none

/-- The number of things with one of the names that lines tell; there are none if no line tells
otherwise. -/
def countIn (nouns : List Text) (lines : List Text) : UInt64 :=
  (lines.findSome? (countIn? nouns)).getD 0

variable {t s : Tally} {ts : List Tally} {line : Text} {nouns : List Text}

/-- The words of a line for a tally. -/
theorem exists_split_line (hplain : t.IsPlain) (h : t.line? = some line) :
    ∃ noun ∈ t.nouns, split ' ' line = ["-".toList, t.verb, decimal64 t.count, noun] := by
  obtain ⟨noun, hnoun, rfl⟩ := Measures.exists_of_line? h
  have hmem : noun ∈ t.nouns := by simpa [Tally.nouns] using hnoun
  refine ⟨noun, hmem, ?_⟩
  have hwords : "- ".toList ++ t.verb ++ ' ' :: decimal64 t.count ++ ' ' :: noun =
      "-".toList ++ ' ' :: (t.verb ++ ' ' :: (decimal64 t.count ++ ' ' :: noun)) := by simp
  rw [hwords, split_append_cons (by decide), split_append_cons hplain.1,
    split_append_cons (space_not_mem_decimal64 t.count), split_of_not_mem (hplain.2 noun hmem)]

/-- The line for a tally tells its number. -/
theorem countIn?_nouns (hplain : t.IsPlain) (h : t.line? = some line) :
    countIn? t.nouns line = some t.count := by
  obtain ⟨noun, hnoun, hwords⟩ := exists_split_line hplain h
  have hnamed : (t.nouns.any fun n => n = noun) = true :=
    List.any_eq_true.mpr ⟨noun, hnoun, decide_eq_true rfl⟩
  simp only [countIn?, hwords, hnamed, if_true, number_decimal64]

/-- The line for a tally tells nothing of things with other names. -/
theorem countIn?_of_disjoint (hplain : t.IsPlain) (hapart : t.nouns.Disjoint nouns)
    (h : t.line? = some line) : countIn? nouns line = none := by
  obtain ⟨noun, hnoun, hwords⟩ := exists_split_line hplain h
  have hother : (nouns.any fun n => n = noun) = false :=
    List.any_eq_false.mpr fun n hn hname => hapart hnoun (of_decide_eq_true hname ▸ hn)
  simp only [countIn?, hwords, hother, Bool.false_eq_true, if_false]

theorem countIn_of_disjoint (hplain : ∀ s ∈ ts, s.IsPlain)
    (hapart : ∀ s ∈ ts, s.nouns.Disjoint nouns) : countIn nouns (ts.filterMap line?) = 0 := by
  have hnone : (ts.filterMap line?).findSome? (countIn? nouns) = none := by
    refine List.findSome?_eq_none_iff.mpr fun line hline => ?_
    obtain ⟨s, hs, hline⟩ := List.mem_filterMap.mp hline
    exact countIn?_of_disjoint (hplain s hs) (hapart s hs) hline
  rw [countIn, hnone, Option.getD_none]

/-- **The number of things of a kind can be looked up**, if no other kind shares a name with it. -/
theorem countIn_filterMap_line? (hplain : ∀ s ∈ ts, s.IsPlain) (hapart : ts.Pairwise Apart)
    (ht : t ∈ ts) : countIn t.nouns (ts.filterMap line?) = t.count := by
  induction ts with
  | nil => cases ht
  | cons s ts ih =>
    obtain ⟨hs, hothers⟩ := List.forall_mem_cons.mp hplain
    obtain ⟨hsapart, hapart⟩ := List.pairwise_cons.mp hapart
    rcases List.mem_cons.mp ht with rfl | ht
    · cases hline : t.line? with
      | none =>
        have hzero : t.count = 0 := by
          by_contra hne
          simp [line?, hne] at hline
        rw [List.filterMap_cons_none hline, hzero]
        exact countIn_of_disjoint hothers fun s hs => List.disjoint_symm (hsapart s hs)
      | some line =>
        rw [List.filterMap_cons_some hline, countIn, List.findSome?_cons, countIn?_nouns hs hline,
          Option.getD_some]
    · have hlater := ih hothers hapart ht
      cases hline : s.line? with
      | none => rw [List.filterMap_cons_none hline, hlater]
      | some line =>
        rw [List.filterMap_cons_some hline, countIn, List.findSome?_cons,
          countIn?_of_disjoint hs (hsapart t ht) hline]
        exact hlater

end Tally

/-! ## Summaries -/

namespace Measures

variable {language language' : Language} {m m' : Measures}

theorem isPlain_of_mem_tallies {t : Tally} (h : t ∈ m.tallies) : t.IsPlain := by
  simp only [tallies, List.mem_cons, List.not_mem_nil, or_false] at h
  rcases h with rfl | rfl | rfl | rfl <;> simp [Tally.IsPlain, Tally.nouns]

/-- No two kinds of things that are counted share a name. -/
theorem pairwise_apart_tallies (m : Measures) : m.tallies.Pairwise Tally.Apart := by
  simp [tallies, Tally.Apart, Tally.nouns]

/-- The language and the measures that a text is the summary of. -/
def readBack (summary : Text) : Option (Language × Measures) :=
  match pieces summary with
  | first :: second :: tallied =>
    match split ' ' first, split ' ' second with
    | [_, _, language], [_, _, _, lines, _, _, _, _, tier, score, _] => do
      let language ← Language.all.find? fun l => l.name = language
      let tier ← Tier.all.find? fun t => t.name = tier
      return (language, {
        lines := number lines
        functions := Tally.countIn ["function".toList, "functions".toList] tallied
        classes := Tally.countIn ["class".toList, "classes".toList] tallied
        loops := Tally.countIn ["loop".toList, "loops".toList] tallied
        conditionals := Tally.countIn ["conditional".toList, "conditionals".toList] tallied
        score := number (score.drop 1)
        tier })
    | _, _ => none
  | _ => none

theorem pieces_inPlainWords (language : Language) (m : Measures) :
    pieces (inPlainWords language m) = summaryLines language m :=
  pieces_ofPieces (List.cons_ne_nil _ _) fun _ => lineFeed_not_mem_of_mem_summaryLines

theorem split_languageLine (language : Language) :
    split ' ' ("Language guessed: ".toList ++ language.name) =
      ["Language".toList, "guessed:".toList, language.name] := by
  cases language <;> decide

theorem split_sizeLine (m : Measures) :
    split ' ' ("Lines of code: ".toList ++ decimal64 m.lines ++ "  |  Complexity: ".toList ++
      m.tier.name ++ " (".toList ++ decimal64 m.score ++ " pts)".toList) =
      ["Lines".toList, "of".toList, "code:".toList, decimal64 m.lines, [], "|".toList, [],
        "Complexity:".toList, m.tier.name, '(' :: decimal64 m.score, "pts)".toList] := by
  have htier : ' ' ∉ m.tier.name := by cases m.tier <;> decide
  have hwords : "Lines of code: ".toList ++ decimal64 m.lines ++ "  |  Complexity: ".toList ++
      m.tier.name ++ " (".toList ++ decimal64 m.score ++ " pts)".toList =
        join ' ' ["Lines".toList, "of".toList, "code:".toList, decimal64 m.lines, [], "|".toList, [],
          "Complexity:".toList, m.tier.name, '(' :: decimal64 m.score, "pts)".toList] := by
    simp [join, List.intercalate]
  rw [hwords]
  refine split_join (List.cons_ne_nil _ _) ?_
  simp [space_not_mem_decimal64, htier]

/-- **A summary can be read back.** -/
theorem readBack_inPlainWords (language : Language) (m : Measures) :
    readBack (inPlainWords language m) = some (language, m) := by
  have hlanguage : (Language.all.find? fun l => l.name = language.name) = some language := by
    cases language <;> decide
  have htier : (Tier.all.find? fun t => t.name = m.tier.name) = some m.tier := by
    cases m.tier <;> decide
  have hcount {t : Tally} (ht : t ∈ m.tallies) :
      Tally.countIn t.nouns (m.tallies.filterMap Tally.line?) = t.count :=
    Tally.countIn_filterMap_line? (fun _ => isPlain_of_mem_tallies) (pairwise_apart_tallies m) ht
  have hfunctions := hcount (t := ⟨"Has".toList, m.functions, "function".toList, "functions".toList⟩)
    (by simp [tallies])
  have hclasses := hcount (t := ⟨"Contains".toList, m.classes, "class".toList, "classes".toList⟩)
    (by simp [tallies])
  have hloops := hcount (t := ⟨"Uses".toList, m.loops, "loop".toList, "loops".toList⟩)
    (by simp [tallies])
  have hconditionals := hcount
    (t := ⟨"Uses".toList, m.conditionals, "conditional".toList, "conditionals".toList⟩)
    (by simp [tallies])
  simp only [Tally.nouns] at hfunctions hclasses hloops hconditionals
  rw [readBack, pieces_inPlainWords, summaryLines]
  simp only [split_languageLine, split_sizeLine, hlanguage, htier, hfunctions, hclasses, hloops,
    hconditionals, number_decimal64, List.drop_succ_cons, List.drop_zero]
  rfl

/-- **Summaries are the same only for the same language and the same measures.** -/
theorem inPlainWords_eq_iff (language language' : Language) (m m' : Measures) :
    inPlainWords language m = inPlainWords language' m' ↔ language = language' ∧ m = m' := by
  constructor
  · intro h
    have hread := readBack_inPlainWords language m
    rw [h, readBack_inPlainWords, Option.some.injEq, Prod.mk.injEq] at hread
    exact ⟨hread.1.symm, hread.2.symm⟩
  · rintro ⟨rfl, rfl⟩
    rfl

end Measures
end CodeGloss
