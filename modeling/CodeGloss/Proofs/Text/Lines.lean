import CodeGloss.Proofs.Text.Pieces
import CodeGloss.Proofs.Text.Trim

/-! # Counting lines

The pieces of a text and its lines are two notions of line, but for the lines that are not blank
they are one: what sets them apart is a carriage return, which is blank, and an empty line at the
end (`filledLineCount_eq`).  So the lines that are not blank are counted piece by piece.

Line feeds at the end of a text are empty pieces at the end of its pieces
(`pieces_append_lineFeeds`), and blanks around a text of any kind fill no line
(`filledLineCount_padded`).
-/
namespace CodeGloss
namespace Text

theorem allBlank_dropReturn (line : Text) : allBlank (dropReturn line) = allBlank line := by
  unfold dropReturn
  split
  next hlast =>
    have hline : line.dropLast ++ ['\r'] = line :=
      List.dropLast_append_getLast? '\r' hlast
    have hreturn : allBlank ['\r'] = true := by decide
    conv_rhs => rw [← hline, allBlank_append, hreturn, Bool.and_true]
  next => rfl

/-- **The lines that are not blank are the pieces that are not blank.** -/
theorem filledLineCount_eq (t : Text) :
    filledLineCount t = (pieces t).countP fun line => !allBlank line := by
  have hlast : (pieces t).getLast? = some ((pieces t).getLast (pieces_ne_nil t)) :=
    List.getLast?_eq_some_getLast (pieces_ne_nil t)
  have hfinal (final : Text) : (if final.isEmpty then [] else [final]).countP (!allBlank ·) =
      [final].countP (!allBlank ·) := by
    cases final with
    | nil => rfl
    | cons c final => rfl
  conv_rhs => rw [← List.dropLast_append_getLast (pieces_ne_nil t), List.countP_append]
  rw [filledLineCount, lines, hlast, List.countP_append, List.countP_map, Option.getD_some, hfinal]
  congr 1
  exact List.countP_congr fun line _ => by rw [Function.comp_apply, allBlank_dropReturn]

theorem pieces_append (s t : Text) : pieces (s ++ '\n' :: t) = pieces s ++ pieces t := by
  rw [pieces, split_eq_splitOn, List.splitOn_append_cons_self, ← split_eq_splitOn,
    ← split_eq_splitOn, pieces, pieces]

theorem filledLineCount_append (s t : Text) :
    filledLineCount (s ++ '\n' :: t) = filledLineCount s + filledLineCount t := by
  simp only [filledLineCount_eq, pieces_append, List.countP_append]

theorem length_pieces (t : Text) : (pieces t).length = t.count '\n' + 1 := by
  induction t using mark_induction '\n' with
  | last t ht => rw [pieces, split_of_not_mem ht, List.count_eq_zero.mpr ht, List.length_singleton]
  | cut piece rest hpiece ih =>
    rw [pieces_append, List.length_append, ih, pieces, split_of_not_mem hpiece, List.count_append,
      List.count_eq_zero.mpr hpiece, List.count_cons_self, List.length_singleton]
    omega

/-- Line feeds end all lines but one. -/
theorem filledLineCount_le (t : Text) : filledLineCount t ≤ t.count '\n' + 1 := by
  rw [filledLineCount_eq, ← length_pieces]
  exact List.countP_le_length

/-! ## Blanks at the ends -/

/-- Where two texts meet, the last piece of the one and the first piece of the other become one. -/
theorem exists_pieces_append (s t : Text) : ∃ front last first back, pieces s = front ++ [last] ∧
    pieces t = first :: back ∧ pieces (s ++ t) = front ++ (last ++ first) :: back := by
  induction s using mark_induction '\n' with
  | last s hs =>
    rw [pieces, split_of_not_mem hs]
    by_cases ht : '\n' ∈ t
    · obtain ⟨first, rest, rfl, hfirst⟩ := List.eq_append_cons_of_mem ht
      have hjoint : '\n' ∉ s ++ first := by simp [hs, hfirst]
      refine ⟨[], s, first, pieces rest, rfl, split_append_cons hfirst rest, ?_⟩
      rw [← List.append_assoc, pieces, split_append_cons hjoint, List.nil_append, pieces]
    · have hjoint : '\n' ∉ s ++ t := by simp [hs, ht]
      exact ⟨[], s, t, [], rfl, split_of_not_mem ht, split_of_not_mem hjoint⟩
  | cut piece rest hpiece ih =>
    obtain ⟨front, last, first, back, hrest, ht, happend⟩ := ih
    refine ⟨piece :: front, last, first, back, ?_, ht, ?_⟩
    · rw [pieces, split_append_cons hpiece, ← pieces, hrest, List.cons_append]
    · rw [List.append_assoc, List.cons_append, pieces, split_append_cons hpiece, ← pieces, happend,
        List.cons_append]

theorem allBlank_of_mem_pieces {blanks piece : Text} (h : ∀ c ∈ blanks, isBlank c = true)
    (hpiece : piece ∈ pieces blanks) : allBlank piece = true :=
  allBlank_eq_true_iff.mpr fun c hc => h c (mem_of_mem_split hpiece hc)

/-- **Blanks around a text fill no line**, whatever line ends are among them. -/
theorem filledLineCount_padded {u v : Text} (hu : ∀ c ∈ u, isBlank c = true)
    (hv : ∀ c ∈ v, isBlank c = true) (t : Text) :
    filledLineCount (u ++ (t ++ v)) = filledLineCount t := by
  have hblank {ps : List Text} (h : ∀ piece ∈ ps, allBlank piece = true) :
      ps.countP (fun line => !allBlank line) = 0 :=
    List.countP_eq_zero.mpr fun piece hpiece => by simp [h piece hpiece]
  have hfront (s : Text) : filledLineCount (u ++ s) = filledLineCount s := by
    obtain ⟨front, last, first, back, hu', hs, happend⟩ := exists_pieces_append u s
    have hpieces : ∀ piece ∈ pieces u, allBlank piece = true := fun _ => allBlank_of_mem_pieces hu
    rw [hu', List.forall_mem_append, List.forall_mem_singleton] at hpieces
    rw [filledLineCount_eq, filledLineCount_eq, happend, hs, List.countP_append, hblank hpieces.1,
      Nat.zero_add, List.countP_cons, List.countP_cons, allBlank_append, hpieces.2, Bool.true_and]
  have hback : filledLineCount (t ++ v) = filledLineCount t := by
    obtain ⟨front, last, first, back, ht, hv', happend⟩ := exists_pieces_append t v
    have hpieces : ∀ piece ∈ pieces v, allBlank piece = true := fun _ => allBlank_of_mem_pieces hv
    rw [hv', List.forall_mem_cons] at hpieces
    rw [filledLineCount_eq, filledLineCount_eq, happend, ht, List.countP_append, List.countP_append,
      List.countP_cons, hblank hpieces.2, allBlank_append, hpieces.1, Bool.and_true,
      List.countP_singleton, Nat.zero_add]
  rw [hfront, hback]

/-! ## Line feeds at the end -/

theorem ofPieces_append {ps qs : List Text} (hps : ps ≠ []) (hqs : qs ≠ []) :
    ofPieces (ps ++ qs) = ofPieces ps ++ '\n' :: ofPieces qs := by
  induction ps with
  | nil => exact absurd rfl hps
  | cons piece later ih =>
    rw [List.cons_append, ofPieces_cons piece (List.append_ne_nil_of_right_ne_nil later hqs)]
    by_cases hlater : later = []
    · rw [hlater, List.nil_append, ofPieces_singleton]
    · rw [ih hlater, ofPieces_cons piece hlater, List.append_assoc, List.cons_append]

/-- Line feeds only. -/
def lineFeeds (n : Nat) : Text :=
  List.replicate n '\n'

/-- Each line feed at the end leaves an empty piece behind it. -/
theorem pieces_append_lineFeeds (t : Text) (n : Nat) :
    pieces (t ++ lineFeeds n) = pieces t ++ List.replicate n [] := by
  induction n with
  | zero => simp [lineFeeds]
  | succ n ih =>
    have hlast : t ++ lineFeeds (n + 1) = (t ++ lineFeeds n) ++ '\n' :: [] := by
      rw [lineFeeds, List.replicate_succ', ← lineFeeds, List.append_assoc]
    rw [hlast, pieces_append, ih, List.replicate_succ', List.append_assoc]
    rfl

theorem ofPieces_append_replicate {ps : List Text} (hps : ps ≠ []) (n : Nat) :
    ofPieces (ps ++ List.replicate n []) = ofPieces ps ++ lineFeeds n := by
  induction n with
  | zero => simp [lineFeeds]
  | succ n ih =>
    rw [List.replicate_succ', ← List.append_assoc,
      ofPieces_append (List.append_ne_nil_of_left_ne_nil hps _) (List.cons_ne_nil _ _), ih,
      ofPieces_singleton, List.append_assoc, lineFeeds, lineFeeds, List.replicate_succ']

/-! ## What stands behind a piece -/

/-- The pieces with a line feed in front of each. -/
def behind (ps : List Text) : Text :=
  if ps.isEmpty then [] else '\n' :: ofPieces ps

theorem behind_of_ne_nil {ps : List Text} (h : ps ≠ []) : behind ps = '\n' :: ofPieces ps := by
  rw [behind, List.isEmpty_eq_false_iff.mpr h, if_neg Bool.false_ne_true]

theorem ofPieces_cons_eq (piece : Text) (ps : List Text) :
    ofPieces (piece :: ps) = piece ++ behind ps := by
  cases ps with
  | nil => rw [ofPieces_singleton, behind, List.isEmpty_nil, if_pos rfl, List.append_nil]
  | cons first later => exact ofPieces_cons piece (List.cons_ne_nil first later)

end Text
end CodeGloss
