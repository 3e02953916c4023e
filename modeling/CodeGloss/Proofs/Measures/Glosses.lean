import CodeGloss.Proofs.Measures.GlossedLines
import CodeGloss.Proofs.Measures.Size

/-! # Glosses and measures of a snippet agree

Glosses and measures both speak of definitions, but they look for them in different ways.  A gloss
is about one line, and says that a function or a class is defined there if a head occurs in the
trimmed line.  The measures are tallies over the whole snippet, where a definition may take words
from several lines, so that what is a definition in its line may be none in the snippet.  In

```
class
class class
A
```

the only line with a gloss is the second, and the snippet has two definitions, of which neither is
the one in the second line.  Still the measures have as many definitions as there are lines with
one, and hence at least as many as there are comments that say so in the glossed snippet, whatever
is taken for the comments there (`IsReading`).
-/
namespace CodeGloss

open Text

namespace Pattern

variable {keywords : List String}

/-- **A text has as many definitions as it has lines with a definition.** -/
theorem countP_pieces_le_count (hkeywords : ∀ k ∈ keywords, IsKeyword k) {p : Text → Bool}
    (hp : ∀ line, p line = true → 0 < (definitions keywords).count line) (t : Text) :
    (pieces t).countP p ≤ (definitions keywords).count t := by
  conv_rhs => rw [← ofPieces_pieces t]
  induction pieces t with
  | nil => exact Nat.zero_le _
  | cons line later ih =>
    have hline : (if p line then 1 else 0) ≤ (definitions keywords).count line := by
      split
      next h => exact hp line h
      next => exact Nat.zero_le _
    rw [List.countP_cons]
    by_cases hlater : later = []
    · rw [hlater, ofPieces_singleton, List.countP_nil, Nat.zero_add]
      exact hline
    · have hjoin := (count_definitions_append_cons hkeywords (show isWord '\n' = false by decide)
        line (ofPieces later)).1
      rw [ofPieces_cons line hlater]
      omega

end Pattern

/-! ## What glosses begin with -/

namespace LineKind

/-- Only a remark about a class begins like one. -/
theorem eq_newClass_of_begins {kind : LineKind} {line remark : Text}
    (h : kind.remark? line = some remark)
    (hbegins : "Define a new class named ".toList <+: remark) : kind = newClass := by
  cases kind with
  | newClass => rfl
  | newFunction =>
    obtain ⟨name, -, rfl⟩ := Option.map_eq_some_iff.mp h
    have hopening := List.prefix_of_prefix_length_le
      (List.prefix_append "Define function: ".toList (Phrase.ofName name)) hbegins (by decide)
    exact absurd hopening (by decide)
  | assignment =>
    simp only [remark?, effectOfAssignment] at h
    split at h
    · obtain rfl := Option.some.inj h
      revert hbegins
      split
      · decide
      · split <;> decide
    · cases h
  | forEach | repeatWhile | condition | otherwiseIf | otherwise | result | output | inclusion =>
    rw [eq_of_remarkIf h] at hbegins
    exact absurd hbegins (by decide)

/-- The keyword that a definition begins with, in small letters. -/
def keyword (definition : Text) : Text :=
  (definition.takeWhile isWord).map fold

/-- Whether the first head of a function in the line has a keyword that the measures know. -/
def hasCountedHead (line : Text) : Bool :=
  (functionHead.first? (trim line)).any fun head =>
    ["def".toList, "function".toList].contains (keyword head)

end LineKind

namespace Gloss

/-- Whether what a comment says begins with the opening. -/
def opensWith (language : Language) (opening comment : Text) : Bool :=
  (language.marker ++ ' ' :: opening).isPrefixOf (trimStart comment)

variable {language : Language} {options : Options} {opening line gloss : Text}

theorem exists_of_opensWith (h : above? language options line = some gloss)
    (hopens : opensWith language opening gloss = true) :
    ∃ (kind : LineKind) (remark : Text), kind.remark? (trim line) = some remark ∧
      opening <+: remark := by
  obtain ⟨remark, hremark, rfl⟩ := exists_of_above? h
  obtain ⟨kind, -, hkind⟩ := List.exists_of_findSome?_eq_some (remarkOn?_of_remark? hremark)
  rw [opensWith, trimStart_comment fun _ => isBlank_of_mem_margin, List.isPrefixOf_iff_prefix,
    List.prefix_append_right_inj, List.cons_prefix_cons] at hopens
  exact ⟨kind, remark, hkind, hopens.2⟩

end Gloss

/-! ## Lines that define something -/

namespace Measures

open Gloss LineKind

variable {language : Language} {options : Options} {line gloss : Text}

theorem count_classPattern_pos (h : above? language options line = some gloss)
    (hopens : opensWith language "Define a new class named ".toList gloss = true) :
    0 < classPattern.count line := by
  obtain ⟨kind, remark, hremark, hbegins⟩ := exists_of_opensWith h hopens
  obtain rfl := eq_newClass_of_begins hremark hbegins
  obtain ⟨name, hname, -⟩ := Option.map_eq_some_iff.mp hremark
  obtain ⟨occurrence, hfirst, -⟩ := Option.map_eq_some_iff.mp hname
  obtain ⟨s, hs, hkey, -⟩ := Pattern.exists_of_first?_definitions isKeyword_class hfirst
  rw [classPattern, ← Pattern.count_definitions_trim isKeyword_class]
  exact Pattern.count_definitions_pos isKeyword_class hs hkey

theorem count_functionPattern_pos (h : hasCountedHead line = true) :
    0 < functionPattern.count line := by
  obtain ⟨head, hfirst, hkeyword⟩ := (Option.any_eq_true _ _).mp h
  obtain ⟨s, hs, hhead, hword⟩ := Pattern.exists_of_first?_definitions (by decide) hfirst
  rw [List.contains_iff_mem, keyword, hword] at hkeyword
  have hkey : s.isOneOf ["def", "function"] = true := by
    simpa [Segment.isOneOf] using hkeyword
  have hblank : s.gap.all isBlank = true := (Bool.and_eq_true_iff.mp hhead).2
  have hopens : s.opens ["def", "function"] = true := Bool.and_eq_true_iff.mpr ⟨hkey, hblank⟩
  rw [functionPattern, ← Pattern.count_definitions_trim isKeyword_function]
  exact Pattern.count_definitions_pos isKeyword_function hs hopens

/-! ## Comments and definitions -/

variable {code : Text} {reading : List (Option Text × Text)}

/-- No reading has more comments on classes than there are definitions of classes. -/
theorem countP_classes_le (h : IsReading language options code reading) :
    (reading.countP fun part =>
      part.1.any (opensWith language "Define a new class named ".toList)) ≤
        classPattern.count code := by
  rw [h.countP_comment]
  refine Pattern.countP_pieces_le_count isKeyword_class (fun line hline => ?_) code
  obtain ⟨gloss, habove, hopens⟩ := (Option.any_eq_true _ _).mp hline
  exact count_classPattern_pos habove hopens

/-- No reading has more comments on lines whose keyword is counted than there are definitions of
functions. -/
theorem countP_functions_le (h : IsReading language options code reading) :
    (reading.countP fun part =>
      part.1.any (opensWith language "Define function: ".toList) && hasCountedHead part.2) ≤
        functionPattern.count code := by
  -- the head alone makes a definition, whatever the comment above the line
  have hheads : (reading.countP fun part =>
      part.1.any (opensWith language "Define function: ".toList) && hasCountedHead part.2) ≤
        reading.countP (hasCountedHead ∘ Prod.snd) :=
    List.countP_mono_left fun part _ hpart => (Bool.and_eq_true_iff.mp hpart).2
  have hlines : (pieces code).countP hasCountedHead ≤ functionPattern.count code :=
    Pattern.countP_pieces_le_count isKeyword_function (fun _ => count_functionPattern_pos) code
  rw [← h.lines, List.countP_map] at hlines
  exact hheads.trans hlines

/-- **The measures have a definition for every comment that speaks of one**; a function counts only
if its keyword is one of those that the measures know.  A snippet in memory has fewer than `2 ^ 63`
octets. -/
theorem countP_opensWith_le (hcode : (Utf8.encode code).length < 2 ^ 63) :
    (∃ m, ofCode {} code = .ok m) ∧
      ∀ (language : Language) (options : Options),
        (∃ reading, IsReading language options code reading) ∧
          ∀ (scoring : Scoring) (m : Measures), ofCode scoring code = .ok m →
            ∀ reading, IsReading language options code reading →
              (reading.countP fun part =>
                part.1.any (opensWith language "Define a new class named ".toList)) ≤
                  m.classes.toNat ∧
              (reading.countP fun part =>
                part.1.any (opensWith language "Define function: ".toList) &&
                  hasCountedHead part.2) ≤ m.functions.toNat := by
  refine ⟨exists_ofCode_default hcode, fun language options => ⟨?_, ?_⟩⟩
  · exact ⟨_, isReading_above? language options code⟩
  · intro scoring m h reading hreading
    have hexact := isExact_of_ofCode hcode h
    rw [hexact.classes, hexact.functions]
    exact ⟨countP_classes_le hreading, countP_functions_le hreading⟩

/-- The comments of the snippet with three lines and a function below it. -/
theorem countP_opensWith_le_four_lines :
    let code : Text := "class\nclass class\nA\ndef f".toList
    let reading : List (Option Text × Text) := [(none, "class".toList),
      (some "# Define a new class named class".toList, "class class".toList), (none, "A".toList),
      (some "# Define function: F".toList, "def f".toList)]
    IsReading .python {} code reading ∧
      ∃ m, ofCode {} code = .ok m ∧ 1 ≤ m.classes.toNat ∧ 1 ≤ m.functions.toNat := by
  intro code reading
  have hcode : (Utf8.encode code).length < 2 ^ 63 := by decide
  have hreading : IsReading .python {} code reading := ⟨by decide +kernel, by decide +kernel⟩
  have hclass : (reading.countP fun part =>
      part.1.any (opensWith .python "Define a new class named ".toList)) = 1 := by
    decide +kernel
  have hfunction : (reading.countP fun part =>
      part.1.any (opensWith .python "Define function: ".toList) && hasCountedHead part.2) = 1 := by
    decide +kernel
  obtain ⟨⟨m, hm⟩, hglosses⟩ := countP_opensWith_le hcode
  obtain ⟨hclasses, hfunctions⟩ := (hglosses .python {}).2 {} m hm reading hreading
  rw [hclass] at hclasses
  rw [hfunction] at hfunctions
  exact ⟨hreading, m, hm, hclasses, hfunctions⟩

-- none of the definitions in the snippet with three lines is the one of its second line
example : classPattern.occurrences "class\nclass class\nA".toList =
    ["class\nclass".toList, "class\nA".toList] := by
  decide +kernel

end Measures
end CodeGloss
