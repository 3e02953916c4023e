import CodeGloss.Language.Evidence
import CodeGloss.Proofs.Pattern.Matching
import CodeGloss.Proofs.Text.LineEnds

/-! # Patterns and line ends

The patterns of the library look at line ends in runs only: a run of blanks takes both characters of
a line end, a run within a line takes the carriage return and stops in front of the line feed.  That
no occurrence depends on the carriage returns can be read off the pieces (`ignoresReturns`): no
single character is one of a line end, and a run that takes one of the two takes the carriage return
and has nothing behind it that matches at a line end, or nothing at all if it takes both.

If a pattern begins within a line on top of that, its occurrences in a text with carriage returns
are those of the text (`occurrences_withReturns`).  The check is run on every clue
(`readsOverReturns_clues`).
-/
namespace CodeGloss
namespace Pattern

open Text

/-! ## Pieces that ignore carriage returns -/

/-- Whether a character of a line end is of the kind. -/
def Kind.hasLineEnd (k : Kind) : Bool :=
  k.has '\r' || k.has '\n'

/-- Whether the pieces begin with a character, and not with one of a line end. -/
def beginsInLine : List Piece → Bool
  | [] => false
  | .edge :: later => beginsInLine later
  | .any k :: later => !k.hasLineEnd && beginsInLine later
  | .one k :: _ | .some k :: _ => !k.hasLineEnd

/-- Whether a run of the kind, with the pieces behind it, ends at the same place whether a line end has
a carriage return or not. -/
def runIgnoresReturns (k : Kind) (later : List Piece) : Bool :=
  !k.hasLineEnd || k.has '\r' && (beginsInLine later || k.has '\n' && later.isEmpty)

/-- Whether the pieces match a text with carriage returns as they match the text. -/
def ignoresReturns : List Piece → Bool
  | [] => true
  | .edge :: later => ignoresReturns later
  | .one k :: later => !k.hasLineEnd && ignoresReturns later
  | .any k :: later | .some k :: later => runIgnoresReturns k later && ignoresReturns later

/-- How pieces match a text with carriage returns: the same characters are taken, with the carriage
returns among them. -/
def IgnoresReturns (next : Option Char → Text → Option Nat) : Prop :=
  ∀ before t, next before (withReturns t) =
    (next before t).map fun n => (withReturns (t.take n)).length

/-- Pieces that match at no character of a line end. -/
def RefusesLineEnds (next : Option Char → Text → Option Nat) : Prop :=
  ∀ before rest, next before ('\r' :: rest) = none ∧ next before ('\n' :: rest) = none

variable {k : Kind} {next : Option Char → Text → Option Nat} {later pieces : List Piece}

theorem has_eq_false_of_not_hasLineEnd (h : k.hasLineEnd = false) :
    k.has '\r' = false ∧ k.has '\n' = false :=
  Bool.or_eq_false_iff.mp h

theorem refusesLineEnds_of_beginsInLine (h : beginsInLine pieces = true) :
    RefusesLineEnds (matchLength pieces) := by
  induction pieces with
  | nil => cases h
  | cons piece later ih =>
    intro before rest
    cases piece with
    | edge =>
      obtain ⟨hreturn, hfeed⟩ := ih h before rest
      simp [matchLength, hreturn, hfeed]
    | any k =>
      obtain ⟨hk, hlater⟩ := Bool.and_eq_true_iff.mp h
      obtain ⟨hr, hn⟩ := has_eq_false_of_not_hasLineEnd (by simpa using hk)
      obtain ⟨hreturn, hfeed⟩ := ih hlater before rest
      simp [matchLength, runLength, hr, hn, hreturn, hfeed]
    | one k | some k =>
      obtain ⟨hr, hn⟩ := has_eq_false_of_not_hasLineEnd (k := k) (by simpa [beginsInLine] using h)
      simp [matchLength, hr, hn]

theorem of_runIgnoresReturns (h : runIgnoresReturns k later = true) :
    k.hasLineEnd = false ∨ k.has '\r' = true ∧ (RefusesLineEnds (matchLength later) ∨
      k.has '\n' = true ∧ ∀ before t, (matchLength later before t).isSome) := by
  simp only [runIgnoresReturns, Bool.or_eq_true, Bool.and_eq_true, Bool.not_eq_true',
    List.isEmpty_iff] at h
  refine h.imp_right fun ⟨hreturn, hbehind⟩ => ⟨hreturn, ?_⟩
  refine hbehind.imp refusesLineEnds_of_beginsInLine fun ⟨hfeed, hnil⟩ => ⟨hfeed, ?_⟩
  subst hnil
  exact fun before t => rfl

/-! ## Runs -/

/-- A run has an end if whatever follows can be what is behind it. -/
theorem isSome_runLength (hnext : ∀ before t, (next before t).isSome) (before : Option Char)
    (t : Text) : (runLength k next before t).isSome := by
  induction t generalizing before with
  | nil => exact hnext before []
  | cons c rest ih =>
    rw [runLength]
    split
    · split
      · rfl
      · exact hnext before _
    · exact hnext before _

/-- One step of a run within a line. -/
theorem runLength_cons_withReturns (hnext : IgnoresReturns next) {c : Char} (hc : c ≠ '\n')
    {before : Option Char} {rest : Text}
    (h : runLength k next (some c) (withReturns rest) =
      (runLength k next (some c) rest).map fun n => (withReturns (rest.take n)).length) :
    runLength k next before (withReturns (c :: rest)) =
      (runLength k next before (c :: rest)).map fun n =>
        (withReturns ((c :: rest).take n)).length := by
  have hstop := hnext before (c :: rest)
  rw [withReturns_cons hc] at hstop ⊢
  rw [runLength, runLength, h, hstop]
  split
  · cases runLength k next (some c) rest with
    | none => rfl
    | some n => simp [withReturns_cons hc]
  · rfl

/-- What a run that has taken a carriage return takes behind it. -/
theorem runLength_behind_return {rest : Text}
    (h : runLength k next (some '\n') (withReturns rest) =
      (runLength k next (some '\n') rest).map fun n => (withReturns (rest.take n)).length)
    (hnext : RefusesLineEnds next ∨ k.has '\n' = true ∧ ∀ before t, (next before t).isSome) :
    runLength k next (some '\r') ('\n' :: withReturns rest) =
      if k.has '\n' then
        (runLength k next (some '\n') rest).map fun n => (withReturns (rest.take n)).length + 1
      else none := by
  rw [runLength, h]
  rcases hnext with hrefuses | ⟨hfeed, hnext⟩
  · rw [(hrefuses (some '\r') (withReturns rest)).2]
    cases k.has '\n' <;> cases runLength k next (some '\n') rest <;> rfl
  · -- what is behind the run follows wherever it ends, so the run goes on as far as it can
    obtain ⟨n, hn⟩ := Option.isSome_iff_exists.mp (isSome_runLength (k := k) hnext (some '\n') rest)
    rw [hn, if_pos hfeed, if_pos hfeed]
    rfl

/-- One step of a run at a line end. -/
theorem runLength_lineFeed_withReturns {before : Option Char} {rest : Text}
    (h : runLength k next (some '\n') (withReturns rest) =
      (runLength k next (some '\n') rest).map fun n => (withReturns (rest.take n)).length)
    (hreturn : k.has '\r' = true)
    (hnext : RefusesLineEnds next ∨ k.has '\n' = true ∧ ∀ before t, (next before t).isSome) :
    runLength k next before (withReturns ('\n' :: rest)) =
      (runLength k next before ('\n' :: rest)).map fun n =>
        (withReturns (('\n' :: rest).take n)).length := by
  rw [withReturns_lineFeed, runLength, if_pos hreturn, runLength_behind_return h hnext, runLength]
  rcases hnext with hrefuses | ⟨hfeed, hnext⟩
  · rw [(hrefuses before _).1, (hrefuses before rest).2]
    cases k.has '\n' <;> cases runLength k next (some '\n') rest <;> rfl
  · obtain ⟨n, hn⟩ := Option.isSome_iff_exists.mp (isSome_runLength (k := k) hnext (some '\n') rest)
    rw [hn, if_pos hfeed, if_pos hfeed]
    rfl

theorem runLength_ignoresReturns (hnext : IgnoresReturns next)
    (h : k.hasLineEnd = false ∨ k.has '\r' = true ∧
      (RefusesLineEnds next ∨ k.has '\n' = true ∧ ∀ before t, (next before t).isSome)) :
    IgnoresReturns (runLength k next) := by
  intro before t
  induction t generalizing before with
  | nil => exact hnext before []
  | cons c rest ih =>
    by_cases hc : c = '\n'
    · subst hc
      rcases h with h | ⟨hreturn, h⟩
      · obtain ⟨hr, hn⟩ := has_eq_false_of_not_hasLineEnd h
        have hstop := hnext before ('\n' :: rest)
        rw [withReturns_lineFeed] at hstop ⊢
        rw [runLength, if_neg (by simp [hr]), runLength, if_neg (by simp [hn]), hstop]
      · exact runLength_lineFeed_withReturns (ih (some '\n')) hreturn h
    · exact runLength_cons_withReturns hnext hc (ih (some c))

/-! ## Pieces -/

/-- **The check is sound**: pieces that pass it ignore carriage returns. -/
theorem matchLength_ignoresReturns (h : ignoresReturns pieces = true) :
    IgnoresReturns (matchLength pieces) := by
  induction pieces with
  | nil =>
    intro before t
    simp [matchLength]
  | cons piece later ih =>
    intro before t
    cases piece with
    | edge =>
      have hedge : isEdge before (withReturns t).head? = isEdge before t.head? := by
        cases t with
        | nil => rfl
        | cons c rest =>
          by_cases hc : c = '\n'
          · subst hc
            have hends : isWord '\r' = isWord '\n' := by decide
            simp [isEdge, isWord?, hends]
          · rw [withReturns_cons hc, List.head?_cons, List.head?_cons]
      rw [matchLength, matchLength, hedge, ih h]
      split <;> rfl
    | any k =>
      obtain ⟨hrun, hlater⟩ := Bool.and_eq_true_iff.mp h
      rw [matchLength, matchLength]
      exact runLength_ignoresReturns (ih hlater) (of_runIgnoresReturns hrun) before t
    | one k =>
      obtain ⟨hk, hlater⟩ := Bool.and_eq_true_iff.mp h
      obtain ⟨hr, hn⟩ := has_eq_false_of_not_hasLineEnd (by simpa using hk)
      cases t with
      | nil => rfl
      | cons c rest =>
        by_cases hc : c = '\n'
        · subst hc
          simp [matchLength, hr, hn]
        · rw [withReturns_cons hc, matchLength, matchLength, ih hlater]
          split
          · cases matchLength later (some c) rest <;> simp [withReturns_cons hc]
          · rfl
    | some k =>
      obtain ⟨hrun, hlater⟩ := Bool.and_eq_true_iff.mp h
      have hruns := runLength_ignoresReturns (ih hlater) (of_runIgnoresReturns hrun)
      cases t with
      | nil => rfl
      | cons c rest =>
        by_cases hc : c = '\n'
        · subst hc
          rw [withReturns_lineFeed, matchLength, matchLength]
          rcases of_runIgnoresReturns hrun with hends | ⟨hreturn, hbehind⟩
          · obtain ⟨hr, hn⟩ := has_eq_false_of_not_hasLineEnd hends
            rw [if_neg (by simp [hr]), if_neg (by simp [hn])]
            rfl
          · rw [if_pos hreturn, runLength_behind_return (hruns (some '\n') rest) hbehind]
            cases k.has '\n' <;> cases runLength k (matchLength later) (some '\n') rest <;> rfl
        · rw [withReturns_cons hc, matchLength, matchLength, hruns (some c) rest]
          split
          · cases runLength k (matchLength later) (some c) rest <;> simp [withReturns_cons hc]
          · rfl

/-! ## Occurrences -/

/-- Whether a pattern does so in all its alternatives: it ignores carriage returns and begins within
a line. -/
def readsOverReturns (p : Pattern) : Bool :=
  p.alternatives.all fun pieces => ignoresReturns pieces && beginsInLine pieces

variable {p : Pattern} {before : Option Char} {t rest : Text} {n : Nat}

theorem lengthAt_withReturns (h : p.readsOverReturns = true) (before : Option Char) (t : Text) :
    p.lengthAt before (withReturns t) =
      (p.lengthAt before t).map fun n => (withReturns (t.take n)).length := by
  obtain ⟨alternatives⟩ := p
  simp only [lengthAt]
  induction alternatives with
  | nil => rfl
  | cons pieces later ih =>
    obtain ⟨hpieces, hlater⟩ := Bool.and_eq_true_iff.mp h
    have hmatch := matchLength_ignoresReturns (Bool.and_eq_true_iff.mp hpieces).1 before t
    rw [List.findSome?_cons, List.findSome?_cons, hmatch, ih hlater]
    cases matchLength pieces before t <;> rfl

theorem lengthAt_lineEnd (h : p.readsOverReturns = true) : RefusesLineEnds p.lengthAt := by
  intro before rest
  have hpieces (pieces : List Piece) (hmem : pieces ∈ p.alternatives) :
      matchLength pieces before ('\r' :: rest) = none ∧
        matchLength pieces before ('\n' :: rest) = none := by
    have hcheck := List.all_eq_true.mp h pieces hmem
    exact refusesLineEnds_of_beginsInLine (Bool.and_eq_true_iff.mp hcheck).2 before rest
  rw [lengthAt, lengthAt, List.findSome?_eq_none_iff, List.findSome?_eq_none_iff]
  exact ⟨fun pieces hmem => (hpieces pieces hmem).1, fun pieces hmem => (hpieces pieces hmem).2⟩

/-- Reading passes over a line end. -/
theorem occurrencesFrom_lineEnd (h : p.readsOverReturns = true) (before : Option Char)
    (rest : Text) :
    p.occurrencesFrom 0 before ('\r' :: '\n' :: rest) =
      p.occurrencesFrom 0 before ('\n' :: rest) := by
  obtain ⟨hreturn, hfeed⟩ := lengthAt_lineEnd h before ('\n' :: rest)
  rw [occurrencesFrom_cons_of_none hreturn,
    occurrencesFrom_cons_of_none (lengthAt_lineEnd h (some '\r') rest).2,
    occurrencesFrom_cons_of_none (lengthAt_lineEnd h before rest).2]

/-- **Where the pattern takes no character of the text, it takes none of the long form either.** -/
theorem occurrencesFrom_cons_withReturns {c : Char} (h : p.readsOverReturns = true)
    (hne : ∀ n, p.lengthAt before (c :: rest) ≠ some (n + 1)) :
    p.occurrencesFrom 0 before (withReturns (c :: rest)) =
      p.occurrencesFrom 0 (some c) (withReturns rest) := by
  by_cases hc : c = '\n'
  · subst hc
    rw [withReturns_lineFeed, occurrencesFrom_lineEnd h,
      occurrencesFrom_cons_of_none (lengthAt_lineEnd h before _).2]
  · have hlength := lengthAt_withReturns h before (c :: rest)
    rw [withReturns_cons hc] at hlength ⊢
    refine occurrencesFrom_cons_of_ne fun n hn => ?_
    rw [hlength] at hn
    obtain ⟨m, hm, htaken⟩ := Option.map_eq_some_iff.mp hn
    cases m with
    | zero => cases htaken
    | succ m => exact hne m hm

theorem occurrencesFrom_withReturns (h : p.readsOverReturns = true) (before : Option Char)
    (t : Text) :
    p.occurrencesFrom 0 before (withReturns t) =
      (p.occurrencesFrom 0 before t).map withReturns := by
  match t with
  | [] => simp [occurrencesFrom_nil]
  | c :: rest =>
    by_cases hne : ∀ n, p.lengthAt before (c :: rest) ≠ some (n + 1)
    · rw [occurrencesFrom_cons_withReturns h hne, occurrencesFrom_cons_of_ne hne,
        occurrencesFrom_withReturns h (some c) rest]
    · -- an occurrence is the same in both forms, and reading goes on behind it
      obtain ⟨n, hn⟩ := not_forall_not.mp hne
      obtain ⟨u, v, htext, hlength⟩ : ∃ u v, c :: rest = u ++ v ∧ u.length = n + 1 := by
        refine ⟨_, _, (List.take_append_drop (n + 1) (c :: rest)).symm, ?_⟩
        rw [List.length_take, Nat.min_eq_left (lengthAt_le_length hn)]
      have hpos : u ≠ [] := List.ne_nil_of_length_pos (by omega)
      have hreturns := lengthAt_withReturns h before (c :: rest)
      rw [hn, htext, withReturns_append, Option.map_some, ← hlength, List.take_left] at hreturns
      rw [htext, ← hlength] at hn
      have hshorter : v.length < (c :: rest).length := by
        rw [htext, List.length_append]
        omega
      rw [htext, withReturns_append, occurrencesFrom_append (withReturns_ne_nil hpos) hreturns,
        occurrencesFrom_append hpos hn, getLast?_withReturns,
        occurrencesFrom_withReturns h u.getLast? v, List.map_cons]
termination_by t.length
decreasing_by
  · exact Nat.lt_add_one rest.length
  · exact hshorter

/-- **The occurrences in a text with carriage returns are those of the text**, with the carriage
returns among their characters. -/
theorem occurrences_withReturns (h : p.readsOverReturns = true) (t : Text) :
    p.occurrences (withReturns t) = (p.occurrences t).map withReturns :=
  occurrencesFrom_withReturns h none t

theorem count_withReturns (h : p.readsOverReturns = true) (t : Text) :
    p.count (withReturns t) = p.count t := by
  rw [count, occurrences_withReturns h, List.length_map, count]

/-- Every clue of a language reads over carriage returns. -/
theorem readsOverReturns_clues (l : Language) :
    ∀ pieces ∈ l.clues, readsOverReturns ⟨[pieces]⟩ = true := by
  cases l <;> decide +kernel

end Pattern
end CodeGloss
