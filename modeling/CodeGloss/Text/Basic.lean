/-! # Text

A text is a list of characters.  This module holds what the library does with texts whatever they
say: finding one in another, replacing, cutting at a character and putting the pieces together
again.

Cutting at a character and joining with it are inverse to each other: `join_split`.
-/

namespace CodeGloss

/-- A text: its characters in order. -/
abbrev Text := List Char

namespace Text

/-- Whether `part` stands somewhere in the text. -/
def occurs (part : Text) : Text → Bool
  | [] => part.isEmpty
  | c :: rest => part.isPrefixOf (c :: rest) || occurs part rest

/-- Writes `new` in place of the first `old` in the text, if there is one. -/
def replaceFirst (old new : Text) : Text → Text
  | [] => if old.isEmpty then new else []
  | c :: rest =>
    if old.isPrefixOf (c :: rest) then new ++ (c :: rest).drop old.length
    else c :: replaceFirst old new rest

/-- The pieces between the occurrences of `mark`: one more than there are marks. -/
def split (mark : Char) : Text → List Text
  | [] => [[]]
  | c :: rest =>
    if c = mark then [] :: split mark rest
    else match split mark rest with
      | [] => [[c]]
      | piece :: pieces => (c :: piece) :: pieces

/-- The pieces with `mark` between them. -/
def join (mark : Char) (pieces : List Text) : Text :=
  [mark].intercalate pieces

theorem split_ne_nil (mark : Char) (t : Text) : split mark t ≠ [] := by
  cases t with
  | nil => simp [split]
  | cons c rest =>
    by_cases h : c = mark
    · simp [split, h]
    · cases hs : split mark rest <;> simp [split, h, hs]

theorem join_cons_of_ne_nil (mark : Char) (piece : Text) {pieces : List Text} (h : pieces ≠ []) :
    join mark (piece :: pieces) = piece ++ mark :: join mark pieces := by
  cases pieces with
  | nil => exact absurd rfl h
  | cons q qs => simp [join, List.intercalate]

/-- Joining what was cut gives the text back. -/
theorem join_split (mark : Char) (t : Text) : join mark (split mark t) = t := by
  induction t with
  | nil => rfl
  | cons c rest ih =>
    by_cases h : c = mark
    · rw [split, if_pos h, join_cons_of_ne_nil _ _ (split_ne_nil mark rest), ih, h]
      rfl
    · cases hs : split mark rest with
      | nil => exact absurd hs (split_ne_nil mark rest)
      | cons piece pieces =>
        have hsplit : split mark (c :: rest) = (c :: piece) :: pieces := by simp [split, h, hs]
        rw [hsplit, ← ih, hs]
        cases pieces with
        | nil => simp [join, List.intercalate]
        | cons q qs => simp [join, List.intercalate]

end Text
end CodeGloss
