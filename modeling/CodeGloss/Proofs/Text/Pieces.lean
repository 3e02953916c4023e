import CodeGloss.Text.Lines

/-! # Cutting and joining

`join_split` says that a text is its pieces joined.  The converse holds for every list of pieces
that could come from a text: at least one piece, and none that has the mark (`split_join`).  The
pieces of a text are such a list (`split_ne_nil`, `not_mem_of_mem_split`), so a text can be changed
piece by piece as long as no mark gets into a piece.
-/
namespace CodeGloss
namespace Text

variable {mark : Char}

/-- **Induction from mark to mark.**  What holds of sequences without the mark, and of a sequence
that begins with such a one and a mark if it holds behind the mark, holds of every sequence. -/
theorem mark_induction {α : Type} [DecidableEq α] (mark : α) {motive : List α → Prop}
    (last : ∀ xs, mark ∉ xs → motive xs)
    (cut : ∀ xs rest, mark ∉ xs → motive rest → motive (xs ++ mark :: rest)) (xs : List α) :
    motive xs := by
  by_cases h : mark ∈ xs
  · obtain ⟨first, rest, rfl, hfirst⟩ := List.eq_append_cons_of_mem h
    exact cut first rest hfirst (mark_induction mark last cut rest)
  · exact last xs h
termination_by xs.length
decreasing_by simp_all; omega

theorem split_eq_splitOn (mark : Char) (t : Text) : split mark t = t.splitOn mark := by
  induction t with
  | nil => rfl
  | cons c rest ih =>
    rw [List.splitOn_cons_eq_if_modifyHead, split, ih]
    by_cases h : c = mark
    · simp [h]
    · obtain ⟨piece, pieces, hs⟩ := List.exists_cons_of_ne_nil (List.splitOn_ne_nil mark rest)
      simp [h, hs]

theorem split_of_not_mem {t : Text} (h : mark ∉ t) : split mark t = [t] := by
  rw [split_eq_splitOn, List.splitOn_eq_singleton h]

theorem split_append_cons {piece : Text} (h : mark ∉ piece) (rest : Text) :
    split mark (piece ++ mark :: rest) = piece :: split mark rest := by
  rw [split_eq_splitOn, List.splitOn_append_cons_self_of_not_mem h, split_eq_splitOn]

/-- Cutting what was joined gives the pieces back. -/
theorem split_join {pieces : List Text} (hne : pieces ≠ []) (h : ∀ p ∈ pieces, mark ∉ p) :
    split mark (join mark pieces) = pieces := by
  rw [split_eq_splitOn, join, List.splitOn_intercalate mark h hne]

/-- A change of characters that leaves the marks where they are changes the pieces. -/
theorem split_map {f : Char → Char} (hf : ∀ c, f c = mark ↔ c = mark) (t : Text) :
    split mark (t.map f) = (split mark t).map (List.map f) := by
  induction t using mark_induction mark with
  | last t ht =>
    have hmap : mark ∉ t.map f := by simpa [hf] using ht
    rw [split_of_not_mem ht, split_of_not_mem hmap, List.map_singleton]
  | cut piece rest hpiece ih =>
    have hmap : mark ∉ piece.map f := by simpa [hf] using hpiece
    rw [List.map_append, List.map_cons, (hf mark).mpr rfl, split_append_cons hmap, ih,
      split_append_cons hpiece, List.map_cons]

/-- No piece has the mark. -/
theorem not_mem_of_mem_split {t piece : Text} (h : piece ∈ split mark t) : mark ∉ piece := by
  induction t generalizing piece with
  | nil => simp_all [split]
  | cons c rest ih =>
    by_cases hc : c = mark
    · rw [split, if_pos hc, List.mem_cons] at h
      rcases h with rfl | h
      · exact List.not_mem_nil
      · exact ih h
    · obtain ⟨first, later, hs⟩ := List.exists_cons_of_ne_nil (split_ne_nil mark rest)
      rw [hs] at ih
      rw [split, if_neg hc, hs] at h
      rcases List.mem_cons.mp h with rfl | h
      · have hfirst : mark ∉ first := ih List.mem_cons_self
        simp [hfirst, Ne.symm hc]
      · exact ih (List.mem_cons_of_mem _ h)

theorem mem_join_of_mem {x : Char} {pieces : List Text} {piece : Text} (h : piece ∈ pieces)
    (hx : x ∈ piece) : x ∈ join mark pieces := by
  induction pieces with
  | nil => exact absurd h List.not_mem_nil
  | cons first later ih =>
    by_cases hne : later = []
    · subst hne
      obtain rfl := List.mem_singleton.mp h
      simpa [join] using hx
    · rw [join_cons_of_ne_nil mark first hne, List.mem_append, List.mem_cons]
      rcases List.mem_cons.mp h with rfl | h
      · exact Or.inl hx
      · exact Or.inr (Or.inr (ih h))

/-- The characters of a piece come from the text. -/
theorem mem_of_mem_split {x : Char} {t piece : Text} (h : piece ∈ split mark t) (hx : x ∈ piece) :
    x ∈ t := by
  rw [← join_split mark t]
  exact mem_join_of_mem h hx

/-- A text that was joined has the mark and the characters of the pieces. -/
theorem mem_of_mem_join {x : Char} {pieces : List Text} (h : x ∈ join mark pieces) :
    x = mark ∨ ∃ piece ∈ pieces, x ∈ piece := by
  induction pieces with
  | nil => exact absurd h List.not_mem_nil
  | cons piece pieces ih =>
    by_cases hne : pieces = []
    · subst hne
      exact Or.inr ⟨piece, List.mem_cons_self, by simpa [join] using h⟩
    · rw [join_cons_of_ne_nil mark piece hne, List.mem_append, List.mem_cons] at h
      rcases h with h | h | h
      · exact Or.inr ⟨piece, List.mem_cons_self, h⟩
      · exact Or.inl h
      · rcases ih h with hmark | ⟨q, hq, hx⟩
        · exact Or.inl hmark
        · exact Or.inr ⟨q, List.mem_cons_of_mem piece hq, hx⟩

/-! ## Pieces between line feeds -/

theorem pieces_ne_nil (t : Text) : pieces t ≠ [] :=
  split_ne_nil '\n' t

theorem lineFeed_not_mem_of_mem_pieces {t piece : Text} (h : piece ∈ pieces t) : '\n' ∉ piece :=
  not_mem_of_mem_split h

theorem pieces_ofPieces {ps : List Text} (hne : ps ≠ []) (h : ∀ p ∈ ps, '\n' ∉ p) :
    pieces (ofPieces ps) = ps :=
  split_join hne h

theorem ofPieces_singleton (piece : Text) : ofPieces [piece] = piece := by
  simp [ofPieces, join]

theorem ofPieces_cons {ps : List Text} (piece : Text) (hne : ps ≠ []) :
    ofPieces (piece :: ps) = piece ++ '\n' :: ofPieces ps :=
  join_cons_of_ne_nil '\n' piece hne

end Text
end CodeGloss
