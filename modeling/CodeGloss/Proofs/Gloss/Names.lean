import CodeGloss.Proofs.Gloss
import CodeGloss.Proofs.Pattern.Comments
import CodeGloss.Proofs.Text.Lines

/-! # The names in glosses

A remark about a definition repeats the name that is defined; all other remarks are fixed texts.
Glossing with the names alone leaves all fixed words out of the glosses (`namesOnly`).

To the clues of a language the fixed words of a gloss are nothing, but for one of them: `from`, in
the remark on a line that takes input, is a clue of SQL.  So a clue is found in a glossed snippet as
often as in the one with names alone, and that clue once more for each remark of the kind
(`count_glossed`).  What the names are does not matter to this, nor does what the snippet is.
-/
namespace CodeGloss

open Text

/-! ## Fixed words and names -/

namespace LineKind

/-- The remark on a line that takes input. -/
def inputRemark : Text :=
  "Take input from the user".toList

/-- The remarks that are the same for all lines they are made on. -/
def fixedRemarks : List Text :=
  [inputRemark, "Do some math and save it".toList, "Assign a value to a variable".toList,
    "Loop through stuff".toList, "Repeat while condition holds true".toList,
    "Check condition".toList, "Alternative condition".toList,
    "Fallback if nothing else matched".toList, "Give back the result".toList,
    "Show something on screen".toList, "Bring in external library/module".toList]

/-- The words in front of a name in a remark. -/
def openings : List Text :=
  ["Define function: ".toList, "Define a new class named ".toList]

/-- The name that a remark of the kind repeats, as it is written there. -/
def repeatedName? : LineKind → Text → Option Text
  | newFunction, line => (definedName? functionHead line).map Phrase.ofName
  | newClass, line => definedName? classHead line
  | _, _ => none

variable {kind : LineKind} {line remark : Text}

/-- A remark is a name behind fixed words, or fixed words alone. -/
theorem cases_of_remark? (h : kind.remark? line = some remark) :
    (∃ opening ∈ openings, ∃ name, kind.repeatedName? line = some name ∧ remark = opening ++ name) ∨
      kind.repeatedName? line = none ∧ remark ∈ fixedRemarks := by
  cases kind with
  | newFunction =>
    obtain ⟨name, hname, rfl⟩ := Option.map_eq_some_iff.mp h
    exact Or.inl ⟨_, List.mem_cons_self, Phrase.ofName name, by rw [repeatedName?, hname]; rfl, rfl⟩
  | newClass =>
    obtain ⟨name, hname, rfl⟩ := Option.map_eq_some_iff.mp h
    exact Or.inl ⟨_, List.mem_cons_of_mem _ List.mem_cons_self, name, hname, rfl⟩
  | assignment =>
    refine Or.inr ⟨rfl, ?_⟩
    simp only [remark?, effectOfAssignment] at h
    split at h
    · obtain rfl := Option.some.inj h
      split
      · exact List.mem_cons_self
      · split <;> simp [fixedRemarks]
    · cases h
  | forEach | repeatWhile | condition | otherwiseIf | otherwise | result | output | inclusion =>
    refine Or.inr ⟨rfl, ?_⟩
    rw [eq_of_remarkIf h]
    simp [fixedRemarks]

end LineKind

namespace Gloss

open LineKind Pattern

/-- The name that the remark on a line repeats, or nothing. -/
def repeated (line : Text) : Text :=
  (LineKind.all.findSome? fun kind => kind.repeatedName? (trim line)).getD []

variable {language : Language} {options : Options} {clue : List Piece} {line remark : Text}

/-- Definitions are looked for first, so the name is that of the remark. -/
theorem cases_of_remarkOn? (h : remarkOn? line = some remark) :
    (∃ opening ∈ openings, remark = opening ++ repeated line) ∨
      repeated line = [] ∧ remark ∈ fixedRemarks := by
  cases hfunction : definedName? functionHead (trim line) with
  | some name =>
    have hremark : remarkOn? line = some ("Define function: ".toList ++ Phrase.ofName name) := by
      simp [remarkOn?, LineKind.all, LineKind.remark?, hfunction]
    have hname : repeated line = Phrase.ofName name := by
      simp [repeated, LineKind.all, repeatedName?, hfunction]
    refine Or.inl ⟨_, List.mem_cons_self, ?_⟩
    rw [hname]
    exact Option.some.inj (h.symm.trans hremark)
  | none =>
    cases hclass : definedName? classHead (trim line) with
    | some name =>
      have hremark : remarkOn? line = some ("Define a new class named ".toList ++ name) := by
        simp [remarkOn?, LineKind.all, LineKind.remark?, hfunction, hclass]
      have hname : repeated line = name := by
        simp [repeated, LineKind.all, repeatedName?, hfunction, hclass]
      refine Or.inl ⟨_, List.mem_cons_of_mem _ List.mem_cons_self, ?_⟩
      rw [hname]
      exact Option.some.inj (h.symm.trans hremark)
    | none =>
      have hnone (kind : LineKind) : kind.repeatedName? (trim line) = none := by
        cases kind <;> simp [repeatedName?, hfunction, hclass]
      obtain ⟨kind, -, hkind⟩ := List.exists_of_findSome?_eq_some h
      rcases cases_of_remark? hkind with ⟨_, -, name, hname, -⟩ | ⟨-, hfixed⟩
      · rw [hnone] at hname
        cases hname
      · refine Or.inr ⟨?_, hfixed⟩
        rw [repeated, List.findSome?_eq_none_iff.mpr fun kind _ => hnone kind, Option.getD_none]

/-- A remark that repeats a name is not one on input. -/
theorem opening_append_ne {opening : Text} (h : opening ∈ openings) (name : Text) :
    opening ++ name ≠ inputRemark := by
  intro heq
  have hhead : (opening ++ name).take 1 = inputRemark.take 1 := congrArg (List.take 1) heq
  have hlength : ∀ opening ∈ openings, 1 ≤ opening.length ∧ opening.take 1 ≠ inputRemark.take 1 := by
    decide
  obtain ⟨hle, hne⟩ := hlength opening h
  rw [List.take_append_of_le_length hle] at hhead
  exact hne hhead

/-! ## What clues find in glosses -/

/-- The clue of SQL that is one of the words of a remark. -/
def fromClue : List Piece :=
  spell "FROM" ++ [gap]

/-- The markers of all languages. -/
def markers : List Text :=
  ["#".toList, "//".toList, "--".toList]

theorem marker_mem_markers (language : Language) : language.marker ∈ markers := by
  cases language <;> decide

/-- The marker says nothing, whatever follows it. -/
theorem silent_markers : ∀ marker ∈ markers, ∀ l ∈ Language.all, ∀ clue ∈ l.clues,
    Pattern.silentOver ⟨[clue]⟩ (marker ++ [' ']) = true := by
  decide +kernel

/-- The words in front of a name say nothing, whatever the name is. -/
theorem silent_openings : ∀ opening ∈ openings, ∀ l ∈ Language.all, ∀ clue ∈ l.clues,
    Pattern.silentOver ⟨[clue]⟩ opening = true := by
  decide +kernel

/-- The fixed remarks say nothing, but for one of them. -/
theorem silent_fixedRemarks : ∀ remark ∈ fixedRemarks, ∀ l ∈ Language.all, ∀ clue ∈ l.clues,
    clue = fromClue ∧ remark = inputRemark ∨
      Pattern.silentOver ⟨[clue]⟩ (remark ++ ['\n']) = true := by
  decide +kernel

theorem lengthAt_fromClue (t : Text) :
    Pattern.lengthAt ⟨[fromClue]⟩ none ("from ".toList ++ ("the user\n".toList ++ t)) =
      some "from ".toList.length := by
  have hletters : sameLetter 'F' 'f' = true ∧ sameLetter 'R' 'r' = true ∧ sameLetter 'O' 'o' = true ∧
      sameLetter 'M' 'm' = true := by decide
  have hends : isBlank ' ' = true ∧ isBlank 't' = false := by decide
  simp [lengthAt, fromClue, spell, gap, matchLength, runLength, Kind.has, hletters, hends]

/-- A remark on input is one occurrence of the clue, whatever follows it. -/
theorem count_fromClue_inputRemark (t : Text) :
    Pattern.count ⟨[fromClue]⟩ (inputRemark ++ '\n' :: t) = Pattern.count ⟨[fromClue]⟩ t + 1 := by
  have hparted : Pattern.partedByComments ⟨[fromClue]⟩ = true := by decide
  have hfront : Pattern.silentOver ⟨[fromClue]⟩ "Take input ".toList = true := by decide +kernel
  have hbehind : Pattern.silentOver ⟨[fromClue]⟩ "the user\n".toList = true := by decide +kernel
  have hwords : inputRemark ++ ['\n'] =
      "Take input ".toList ++ ("from ".toList ++ "the user\n".toList) := by decide
  have htext : inputRemark ++ '\n' :: t =
      "Take input ".toList ++ ("from ".toList ++ ("the user\n".toList ++ t)) := by
    rw [← List.append_assoc "from ".toList, ← List.append_assoc, ← hwords, List.append_assoc,
      List.singleton_append]
  rw [htext, count_append_of_silent hparted hfront, ← count_append_of_silent hparted hbehind t, count,
    occurrences, occurrencesFrom_append (by decide) (lengthAt_fromClue t), List.length_cons,
    occurrencesFrom_eq_occurrences hparted, ← count]

section Clues

variable {l : Language} (hclue : clue ∈ l.clues)

include hclue

theorem count_marker_append (language : Language) (words : Text) :
    Pattern.count ⟨[clue]⟩ (language.marker ++ ' ' :: words) = Pattern.count ⟨[clue]⟩ words := by
  have hparted := partedByComments_clues l clue hclue
  have hsilent := silent_markers _ (marker_mem_markers language) l (Language.mem_all l) clue hclue
  rw [← count_append_of_silent hparted hsilent words, List.append_assoc, List.singleton_append]

/-- What a clue finds in a remark and behind it: what it finds from the name on, and the clue that is
one of the words of the remark on input. -/
theorem count_remark_append (h : remarkOn? line = some remark) (below : Text) :
    Pattern.count ⟨[clue]⟩ (remark ++ '\n' :: below) =
      Pattern.count ⟨[clue]⟩ (repeated line ++ '\n' :: below) +
        if clue = fromClue ∧ remark = inputRemark then 1 else 0 := by
  have hparted := partedByComments_clues l clue hclue
  rcases cases_of_remarkOn? h with ⟨opening, hopening, rfl⟩ | ⟨hname, hfixed⟩
  · have hsilent := silent_openings opening hopening l (Language.mem_all l) clue hclue
    have hother : opening ++ repeated line ≠ inputRemark := opening_append_ne hopening (repeated line)
    rw [if_neg fun hboth => hother hboth.2, List.append_assoc, count_append_of_silent hparted hsilent,
      Nat.add_zero]
  · rw [hname, List.nil_append, count_lineFeed_cons hparted]
    by_cases hfrom : clue = fromClue ∧ remark = inputRemark
    · obtain ⟨rfl, rfl⟩ := hfrom
      rw [if_pos ⟨rfl, rfl⟩, count_fromClue_inputRemark]
    · have hsilent :=
        (silent_fixedRemarks remark hfixed l (Language.mem_all l) clue hclue).resolve_left hfrom
      rw [if_neg hfrom, ← count_append_of_silent hparted hsilent below, List.append_assoc,
        List.singleton_append, Nat.add_zero]

end Clues

/-! ## Glossing with names alone -/

/-- A line under its gloss, with nothing but the name in the gloss. -/
def nameLine (language : Language) (options : Options) (line : Text) : List Text :=
  ((remark? language line).map fun _ =>
    margin options line ++ language.marker ++ ' ' :: repeated line).toList ++ [line]

/-- The snippet under glosses that hold a name or nothing. -/
def namesOnly (language : Language) (options : Options) (code : Text) : Text :=
  ofPieces ((pieces code).flatMap (nameLine language options))

/-- The number of lines that are remarked on for taking input. -/
def inputLineCount (language : Language) (lines : List Text) : Nat :=
  lines.countP fun line => remark? language line = some inputRemark

theorem inputLineCount_cons (language : Language) (line : Text) (later : List Text) :
    inputLineCount language (line :: later) = inputLineCount language later +
      if remark? language line = some inputRemark then 1 else 0 := by
  rw [inputLineCount, List.countP_cons, inputLineCount]
  simp only [decide_eq_true_eq]

theorem nameLine_of_none (options : Options) (h : remark? language line = none) :
    nameLine language options line = [line] := by
  rw [nameLine, h]
  rfl

theorem nameLine_of_some (options : Options) (h : remark? language line = some remark) :
    nameLine language options line =
      [margin options line ++ language.marker ++ ' ' :: repeated line, line] := by
  rw [nameLine, h]
  rfl

/-- What follows the text begins a line. -/
def AtLineStart (above : Text) : Prop :=
  above = [] ∨ ∃ lines, above = lines ++ ['\n']

theorem beginsWithMark_marker (language : Language) (words : Text) :
    BeginsWithMark (language.marker ++ words) := by
  cases language
  all_goals exact ⟨_, by decide, _, rfl⟩

/-- If a difference is made by the lines below a line, it is made behind the line. -/
theorem count_append_behind (language : Language) {options : Options} {later : List Text}
    (hlater : ∀ above, AtLineStart above →
      Pattern.count ⟨[clue]⟩ (above ++ ofPieces (later.flatMap (glossLine language options))) =
        Pattern.count ⟨[clue]⟩ (above ++ ofPieces (later.flatMap (nameLine language options))) +
          if clue = fromClue then inputLineCount language later else 0) (above : Text) :
    Pattern.count ⟨[clue]⟩ (above ++ behind (later.flatMap (glossLine language options))) =
      Pattern.count ⟨[clue]⟩ (above ++ behind (later.flatMap (nameLine language options))) +
        if clue = fromClue then inputLineCount language later else 0 := by
  cases later with
  | nil => simp [inputLineCount]
  | cons line later =>
    have hgloss : (line :: later).flatMap (glossLine language options) ≠ [] := by
      simp [glossLine]
    have hname : (line :: later).flatMap (nameLine language options) ≠ [] := by
      simp [nameLine]
    have hbelow := hlater (above ++ ['\n']) (Or.inr ⟨above, rfl⟩)
    rw [List.append_assoc, List.append_assoc, List.singleton_append, List.singleton_append] at hbelow
    rw [behind_of_ne_nil hgloss, behind_of_ne_nil hname]
    exact hbelow

section Lines

variable {l : Language} (hclue : clue ∈ l.clues)

include hclue

/-- A gloss parts what is above it from its words and what is below. -/
theorem count_append_gloss {above : Text} (habove : AtLineStart above) (language : Language)
    (options : Options) (line words below : Text) :
    Pattern.count ⟨[clue]⟩
        (above ++ (margin options line ++ language.marker ++ ' ' :: words ++ '\n' :: below)) =
      Pattern.count ⟨[clue]⟩ above + Pattern.count ⟨[clue]⟩ (words ++ '\n' :: below) := by
  have hparted := partedByComments_clues l clue hclue
  have hblanks : ∀ c ∈ margin options line, isBlank c = true := fun _ => isBlank_of_mem_margin
  have htext : margin options line ++ language.marker ++ ' ' :: words ++ '\n' :: below =
      margin options line ++ (language.marker ++ ' ' :: (words ++ '\n' :: below)) := by
    simp only [List.append_assoc, List.cons_append]
  rw [htext, ← count_marker_append hclue language (words ++ '\n' :: below)]
  rcases habove with rfl | ⟨t, rfl⟩
  · rw [List.nil_append, count, occurrences_blanks_append hparted hblanks]
    exact (Nat.zero_add _).symm
  · rw [List.append_assoc, List.singleton_append]
    exact count_append_comment hparted (beginsWithMark_marker language _) hblanks t

/-- **A clue is found under full glosses as often as under the names alone**, but for the remarks on
input, whatever stands above. -/
theorem count_append_lines (language : Language) (options : Options) (lines : List Text)
    {above : Text} (habove : AtLineStart above) :
    Pattern.count ⟨[clue]⟩ (above ++ ofPieces (lines.flatMap (glossLine language options))) =
      Pattern.count ⟨[clue]⟩ (above ++ ofPieces (lines.flatMap (nameLine language options))) +
        if clue = fromClue then inputLineCount language lines else 0 := by
  -- the text above grows by a line in each step, since a clue may look back over line ends
  induction lines generalizing above with
  | nil => simp [inputLineCount]
  | cons line later ih =>
    have hbehind := count_append_behind language fun _ => ih
    cases hremark : remark? language line with
    | none =>
      have habove? : above? language options line = none := by rw [above?, hremark, Option.map_none]
      have hcount : inputLineCount language (line :: later) = inputLineCount language later := by
        simp [inputLineCount_cons, hremark]
      rw [List.flatMap_cons, List.flatMap_cons, glossLine_of_none habove?,
        nameLine_of_none options hremark, List.singleton_append, List.singleton_append,
        ofPieces_cons_eq, ofPieces_cons_eq, ← List.append_assoc, hbehind, List.append_assoc, hcount]
    | some remark =>
      have habove? : above? language options line =
          some (margin options line ++ language.marker ++ ' ' :: remark) := by
        rw [above?, hremark, Option.map_some]
      have hcount : inputLineCount language (line :: later) =
          inputLineCount language later + if remark = inputRemark then 1 else 0 := by
        simp [inputLineCount_cons, hremark]
      have hlines (words : Text) (ps : List Text) :
          ofPieces ([margin options line ++ language.marker ++ ' ' :: words, line] ++ ps) =
            margin options line ++ language.marker ++ ' ' :: words ++ '\n' :: (line ++ behind ps) := by
        rw [List.cons_append, List.singleton_append, ofPieces_cons _ (List.cons_ne_nil line ps),
          ofPieces_cons_eq]
      -- from the name on the two texts differ in the lines below only
      have hbelow := hbehind (repeated line ++ '\n' :: line)
      rw [List.append_assoc, List.append_assoc, List.cons_append, List.cons_append] at hbelow
      rw [List.flatMap_cons, List.flatMap_cons, glossLine_of_some habove?,
        nameLine_of_some options hremark, hlines, hlines, count_append_gloss hclue habove,
        count_append_gloss hclue habove,
        count_remark_append hclue (remarkOn?_of_remark? hremark), hbelow, hcount]
      by_cases hfrom : clue = fromClue <;> by_cases hinput : remark = inputRemark <;>
        simp [hfrom, hinput] <;> omega

/-- **A clue is found in a glossed snippet as often as in the one with names alone**, and the one that
is a word of the remark on input once more for each such remark. -/
theorem count_glossed (language : Language) (options : Options) (code : Text) :
    Pattern.count ⟨[clue]⟩ (glossed language options code) =
      Pattern.count ⟨[clue]⟩ (namesOnly language options code) +
        if clue = fromClue then inputLineCount language (pieces code) else 0 :=
  count_append_lines hclue language options (pieces code) (Or.inl rfl)

end Lines

end Gloss
end CodeGloss
