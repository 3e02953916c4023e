import CodeGloss.Palette

/-! # What a terminal shows

A terminal takes escape sequences out of what is written to it and shows the other characters, each
in the style that the sequences in front of it have switched on (`Text.shown`).

Whatever is painted can be given as **runs**, texts in one style or in none.  As long as the texts
have no escape character of their own, a terminal shows the runs as they were given
(`Palette.shown_write`), and without the sequences there remains what a plain palette writes
(`Palette.withoutSequences_write`).
-/
namespace CodeGloss

/-- The character that escape sequences begin with. -/
def escape : Char := '\x1b'

/-- A character as a terminal shows it, with the parameters of the sequences that its style comes
from; there are none if all styles are off. -/
structure Cell where
  /-- The character. -/
  char : Char
  /-- The parameters of the sequences since all styles were off. -/
  style : List Text
  deriving DecidableEq, Repr

namespace Text

/-- The style behind a sequence: the parameter zero switches all styles off. -/
def styleBehind (style : List Text) (parameters : Text) : List Text :=
  if parameters = "0".toList then [] else style ++ [parameters]

/-- What a terminal shows of a text in the given style.  `sequence` holds the parameters read so far
of a sequence that has begun and not ended. -/
def shownFrom : (style : List Text) → (sequence : Option Text) → Text → List Cell
  | _, _, [] => []
  | style, some parameters, c :: rest =>
    if c = 'm' then shownFrom (styleBehind style parameters) none rest
    else shownFrom style (some (parameters ++ [c])) rest
  | style, none, '\x1b' :: '[' :: rest => shownFrom style (some []) rest
  | style, none, c :: rest => ⟨c, style⟩ :: shownFrom style none rest

/-- What a terminal shows of a text. -/
def shown (t : Text) : List Cell :=
  shownFrom [] none t

/-- The text that remains when the sequences are taken out. -/
def withoutSequences (t : Text) : Text :=
  (shown t).map Cell.char

variable {style : List Text} {s t parameters : Text}

/-! ## Text and sequences -/

/-- Text without an escape character is shown in the style that is on. -/
theorem shownFrom_append (h : escape ∉ s) (t : Text) :
    shownFrom style none (s ++ t) = s.map (Cell.mk · style) ++ shownFrom style none t := by
  induction s with
  | nil => rfl
  | cons c s ih =>
    obtain ⟨hc, hs⟩ := not_or.mp (mt List.mem_cons.mpr h)
    rw [List.cons_append, shownFrom, ih hs]
    · rfl
    · intro _ heq _
      exact hc heq.symm

theorem shownFrom_parameters {begun : Text} (h : 'm' ∉ parameters) (t : Text) :
    shownFrom style (some begun) (parameters ++ 'm' :: t) =
      shownFrom (styleBehind style (begun ++ parameters)) none t := by
  induction parameters generalizing begun with
  | nil => rw [List.nil_append, shownFrom, if_pos rfl, List.append_nil]
  | cons c parameters ih =>
    obtain ⟨hc, hlater⟩ := not_or.mp (mt List.mem_cons.mpr h)
    rw [List.cons_append, shownFrom, if_neg (Ne.symm hc), ih hlater, List.append_assoc,
      List.singleton_append]

/-- A sequence shows nothing and changes the style. -/
theorem shownFrom_sequence (h : 'm' ∉ parameters) (t : Text) :
    shownFrom style none ("\x1b[".toList ++ parameters ++ ['m'] ++ t) =
      shownFrom (styleBehind style parameters) none t := by
  have hsequence : "\x1b[".toList ++ parameters ++ ['m'] ++ t =
      '\x1b' :: '[' :: (parameters ++ 'm' :: t) := by simp
  rw [hsequence, shownFrom, shownFrom_parameters h, List.nil_append]

end Text

open Text

variable {style : Style} {t : Text}

theorem Style.parameters_bounds (style : Style) :
    'm' ∉ style.parameters ∧ style.parameters ≠ "0".toList := by
  cases style <;> decide

theorem reopen_of_not_mem (opening : Text) (h : escape ∉ t) : reopen opening t = t := by
  induction t with
  | nil => rfl
  | cons c t ih =>
    obtain ⟨hc, ht⟩ := not_or.mp (mt List.mem_cons.mpr h)
    rw [reopen, ih ht]
    intro _ heq _
    exact hc heq.symm

/-- **Painted text is shown in its style, and the text behind it in none.** -/
theorem Palette.shownFrom_paint_append (style : Style) (h : escape ∉ t) (rest : Text) :
    shownFrom [] none (colored.paint style t ++ rest) =
      t.map (Cell.mk · [style.parameters]) ++ shownFrom [] none rest := by
  obtain ⟨hm, hzero⟩ := style.parameters_bounds
  have hreset : resetSequence ++ rest = "\x1b[".toList ++ "0".toList ++ ['m'] ++ rest := rfl
  rw [paint, reopen_of_not_mem _ h, List.append_assoc, List.append_assoc, Style.opening,
    shownFrom_sequence hm, styleBehind, if_neg hzero, List.nil_append, shownFrom_append h, hreset,
    shownFrom_sequence (by decide), styleBehind, if_pos rfl]

/-! ## Runs -/

/-- A text in one style, or in none. -/
structure Run where
  /-- The style, if there is one. -/
  style? : Option Style
  /-- The text. -/
  text : Text
  deriving DecidableEq, Repr

namespace Run

/-- A text in no style. -/
def plain (t : Text) : Run := ⟨none, t⟩

/-- A heading in its style. -/
def heading (title : String) : Run :=
  ⟨some .heading, "--- ".toList ++ title.toList ++ " ---".toList⟩

/-- The name of a tier in the style of the tier. -/
def tierName (tier : Tier) : Run := ⟨some tier.style, tier.name⟩

/-- The run as it is written with a palette. -/
def write (palette : Palette) (r : Run) : Text :=
  match r.style? with
  | none => r.text
  | some style => palette.paint style r.text

/-- The run as a terminal should show it: every character in the style of the run. -/
def cells (r : Run) : List Cell :=
  r.text.map (Cell.mk · (r.style?.map Style.parameters).toList)

theorem write_plain (r : Run) : r.write .plain = r.text := by
  unfold write
  split <;> rfl

theorem shownFrom_write_append (r : Run) (h : escape ∉ r.text) (rest : Text) :
    shownFrom [] none (r.write .colored ++ rest) = r.cells ++ shownFrom [] none rest := by
  obtain ⟨style?, t⟩ := r
  cases style? with
  | none => exact shownFrom_append h rest
  | some style => exact Palette.shownFrom_paint_append style h rest

theorem map_char_cells (r : Run) : r.cells.map Cell.char = r.text := by
  rw [cells, List.map_map]
  exact List.map_id r.text

end Run

namespace Palette

/-- Runs that are written one behind the other. -/
def write (palette : Palette) (runs : List Run) : Text :=
  runs.flatMap (Run.write palette)

variable {runs : List Run}

theorem write_plain (runs : List Run) : plain.write runs = runs.flatMap Run.text := by
  rw [write, funext Run.write_plain]

/-- **A terminal shows the runs as they were given.** -/
theorem shown_write (h : ∀ r ∈ runs, escape ∉ r.text) :
    shown (colored.write runs) = runs.flatMap Run.cells := by
  induction runs with
  | nil => rfl
  | cons r runs ih =>
    obtain ⟨hr, hruns⟩ := List.forall_mem_cons.mp h
    have hlater := ih hruns
    rw [shown, write] at hlater
    rw [shown, write, List.flatMap_cons, List.flatMap_cons, r.shownFrom_write_append hr, hlater]

/-- **Without the sequences there remains what a plain palette writes.** -/
theorem withoutSequences_write (h : ∀ r ∈ runs, escape ∉ r.text) :
    withoutSequences (colored.write runs) = plain.write runs := by
  rw [withoutSequences, shown_write h, List.map_flatMap, funext Run.map_char_cells, write_plain]

end Palette
end CodeGloss
