import CodeGloss.Explanation.Basic
import CodeGloss.Proofs.Gloss.LineEnds
import CodeGloss.Proofs.Pattern.LetterCase
import CodeGloss.Proofs.Pattern.LineEnds
import CodeGloss.Proofs.Scoring

/-! # What makes no difference to an explanation

All that an explanation says of a snippet besides the snippet itself comes from tallies: lines that
are not blank, occurrences of clues, and occurrences of the patterns that are measured.  Snippets
with the **same tallies** (`SameTallies`) are of the same guessed language and have the same measures
and the same summary (`SameTallies.ofCode`), or fail with the same overflow.

Two changes leave all tallies as they are: writing ASCII letters in the other case
(`sameTallies_of_sameButCase`), and ending lines with a carriage return and a line feed
(`sameTallies_withReturns`).  The second changes the glossed snippet in its carriage returns only.
-/
namespace CodeGloss

open Text

/-! ## The same tallies -/

/-- **Snippets that come to the same in numbers.** -/
structure SameTallies (s t : Text) : Prop where
  /-- They have as many lines that are not blank. -/
  lines : filledLineCount s = filledLineCount t
  /-- Every clue occurs as often in them. -/
  clues : ∀ l : Language, l.occurrenceCounts s = l.occurrenceCounts t
  /-- They define as many functions. -/
  functions : Measures.functionPattern.count s = Measures.functionPattern.count t
  /-- They define as many classes. -/
  classes : Measures.classPattern.count s = Measures.classPattern.count t
  /-- They have as many loops. -/
  loops : Measures.loopPattern.count s = Measures.loopPattern.count t
  /-- They have as many conditionals. -/
  conditionals : Measures.conditionalPattern.count s = Measures.conditionalPattern.count t

namespace SameTallies

variable {s t : Text}

theorem guess (h : SameTallies s t) : Language.guess s = Language.guess t := by
  have hevidence (l : Language) : l.evidence s = l.evidence t := by
    rw [Language.evidence, h.clues, Language.evidence]
  have hbetter : Language.better s = Language.better t := by
    funext found next
    rw [Language.better, hevidence, hevidence, Language.better]
  rw [Language.guess, hbetter, Language.guess]

theorem measures (h : SameTallies s t) (scoring : Scoring) :
    Measures.ofCode scoring s = Measures.ofCode scoring t := by
  simp only [Measures.ofCode, h.lines, h.functions, h.classes, h.loops, h.conditionals]

/-- **The explanations differ in nothing but the snippet**, plain and glossed. -/
theorem ofCode (h : SameTallies s t) (settings : Settings) :
    Explanation.ofCode settings s = (Explanation.ofCode settings t).map fun e =>
      { e with code := s, glossed := Gloss.glossed e.language settings.gloss s } := by
  simp only [Explanation.ofCode, h.guess, h.measures]
  cases Measures.ofCode settings.scoring t <;> rfl

end SameTallies

/-! ## The case of letters -/

section LetterCase

variable {s t : Text}

/-- Whether two texts differ in nothing but the case of ASCII letters. -/
def Text.SameButCase (s t : Text) : Prop :=
  s.map Char.toLower = t.map Char.toLower

instance (s t : Text) : Decidable (SameButCase s t) :=
  inferInstanceAs (Decidable (_ = _))

theorem Text.filledLineCount_toLower (t : Text) :
    filledLineCount (t.map Char.toLower) = filledLineCount t := by
  have hpieces : pieces (t.map Char.toLower) = (pieces t).map (List.map Char.toLower) :=
    split_map (toLower_eq_iff (by decide)) t
  have hblank (line : Text) : allBlank (line.map Char.toLower) = allBlank line := by
    rw [Bool.eq_iff_iff]
    simp only [allBlank_eq_true_iff, List.forall_mem_map, isBlank_toLower]
  rw [filledLineCount_eq, filledLineCount_eq, hpieces, List.countP_map]
  simp only [Function.comp_def, hblank]

/-- No pattern tells the cases of a letter apart. -/
theorem Pattern.count_of_sameButCase (h : SameButCase s t) (p : Pattern) :
    p.count s = p.count t :=
  calc p.count s = p.count (s.map Char.toLower) := (p.count_map keepsKinds_toLower s).symm
    _ = p.count (t.map Char.toLower) := by rw [h]
    _ = p.count t := p.count_map keepsKinds_toLower t

theorem sameTallies_of_sameButCase (h : SameButCase s t) : SameTallies s t where
  lines := by rw [← filledLineCount_toLower s, h, filledLineCount_toLower]
  clues l := by simp only [Language.occurrenceCounts, Pattern.count_of_sameButCase h]
  functions := Pattern.count_of_sameButCase h _
  classes := Pattern.count_of_sameButCase h _
  loops := Pattern.count_of_sameButCase h _
  conditionals := Pattern.count_of_sameButCase h _

/-- **The case of letters makes no difference**: not to the number of times that a clue occurs, to
the language that is guessed, to the measures or to the summary. -/
theorem Explanation.ofCode_of_sameButCase (h : SameButCase s t) :
    (∀ l : Language, l.occurrenceCounts s = l.occurrenceCounts t) ∧
      Language.guess s = Language.guess t ∧
      (∀ scoring, Measures.ofCode scoring s = Measures.ofCode scoring t) ∧
      ∀ settings, ofCode settings s = (ofCode settings t).map fun e =>
        { e with code := s, glossed := Gloss.glossed e.language settings.gloss s } := by
  have htallies := sameTallies_of_sameButCase h
  exact ⟨htallies.clues, htallies.guess, htallies.measures, htallies.ofCode⟩

theorem Explanation.ofCode_of_sameButCase_shouted :
    SameButCase "PRINT(x) CLASS A".toList "print(X) class a".toList ∧
      Language.guess "PRINT(x) CLASS A".toList = .python ∧
      ∃ m, Measures.ofCode {} "PRINT(x) CLASS A".toList = .ok m ∧ m.classes = 1 := by
  have hcase : SameButCase "PRINT(x) CLASS A".toList "print(X) class a".toList := by decide
  obtain ⟨-, hguess, hmeasures, -⟩ := ofCode_of_sameButCase hcase
  refine ⟨hcase, hguess.trans (by decide +kernel), ?_⟩
  rw [hmeasures]
  exact ⟨_, rfl, by decide +kernel⟩

end LetterCase

/-! ## Line ends -/

section LineEnds

variable {settings : Settings} {code : Text} {e : Explanation}

/-- **A snippet with carriage returns has the tallies of the snippet.** -/
theorem sameTallies_withReturns (code : Text) : SameTallies (withReturns code) code where
  lines := filledLineCount_withReturns code
  clues l := List.map_congr_left fun pieces hpieces =>
    Pattern.count_withReturns (Pattern.readsOverReturns_clues l pieces hpieces) code
  functions := Pattern.count_withReturns (by decide +kernel) code
  classes := Pattern.count_withReturns (by decide +kernel) code
  loops := Pattern.count_withReturns (by decide +kernel) code
  conditionals := Pattern.count_withReturns (by decide +kernel) code

theorem Explanation.glossed_of_ofCode (h : ofCode settings code = .ok e) :
    e.glossed = Gloss.glossed e.language settings.gloss code := by
  obtain ⟨m, -, he⟩ := bind_eq_ok_iff.mp h
  obtain rfl := Except.ok.inj he
  rfl

/-- **Line ends make no difference**: a snippet with carriage returns is explained if it is explained
without them, with the same language, measures and summary, and the glossed snippet is the same when
the carriage returns are left out. -/
theorem Explanation.ofCode_withReturns (hcode : '\r' ∉ code) (h : ofCode settings code = .ok e) :
    ∃ e', ofCode settings (withReturns code) = .ok e' ∧ e'.language = e.language ∧
      e'.measures = e.measures ∧ e'.summary = e.summary ∧
      withoutReturns e'.glossed = e.glossed := by
  have hreturns := (sameTallies_withReturns code).ofCode settings
  rw [h] at hreturns
  refine ⟨_, hreturns, rfl, rfl, rfl, ?_⟩
  rw [glossed_of_ofCode h]
  exact Gloss.withoutReturns_glossed e.language settings.gloss hcode

theorem Explanation.ofCode_withReturns_indented :
    ∃ e', ofCode ⟨{}, ⟨true⟩⟩ "def f(x):\r\n\tif x:\r\n".toList = .ok e' ∧
      e'.language = .python ∧ e'.measures.lines = 2 ∧
      withoutReturns e'.glossed =
        "# Define function: F\ndef f(x):\n\t# Check condition\n\tif x:\n".toList := by
  have hexplained : ∃ e, ofCode ⟨{}, ⟨true⟩⟩ "def f(x):\n\tif x:\n".toList = .ok e ∧
      e.language = .python ∧ e.measures.lines = 2 ∧ e.glossed =
        "# Define function: F\ndef f(x):\n\t# Check condition\n\tif x:\n".toList :=
    ⟨_, rfl, by decide +kernel⟩
  obtain ⟨e, he, hlanguage, hlines, hglossed⟩ := hexplained
  obtain ⟨e', he', hlanguage', hmeasures', -, hglossed'⟩ := ofCode_withReturns (by decide) he
  exact ⟨e', he', hlanguage'.trans hlanguage, hmeasures' ▸ hlines, hglossed'.trans hglossed⟩

end LineEnds

end CodeGloss
