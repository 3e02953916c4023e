import CodeGloss.Pattern.Basic

/-! # Matching

What runs take, and how the reading of a text goes on.

* A run is some characters of its kind, and the pieces behind it match what follows
  (`runLength_eq_some`); if they match behind the longest run, that is the one taken
  (`runLength_append`).
* Reading passes over a character where the pattern does not match
  (`occurrencesFrom_cons_of_none`), and goes on behind an occurrence (`occurrencesFrom_append`).
-/
namespace CodeGloss
namespace Pattern

open Text

/-! ## Runs -/

section Runs

variable {k : Kind} {next : Option Char → Text → Option Nat} {later : List Piece}
  {before : Option Char} {run rest t : Text} {n m : Nat}

/-- The character in front of what follows a text that is not empty. -/
theorem getLast?_cons_or (c : Char) (t : Text) (before : Option Char) :
    (c :: t).getLast?.or before = t.getLast?.or (some c) := by
  cases h : t.getLast? <;> simp [List.getLast?_cons, h]

theorem runLength_eq_some (h : runLength k next before t = some n) :
    ∃ run rest m, t = run ++ rest ∧ (∀ c ∈ run, k.has c = true) ∧
      next (run.getLast?.or before) rest = some m ∧ n = run.length + m := by
  induction t generalizing before n with
  | nil => exact ⟨[], [], n, rfl, by simp, h, (Nat.zero_add n).symm⟩
  | cons c t ih =>
    have stop (h : next before (c :: t) = some n) : ∃ run rest m, c :: t = run ++ rest ∧
        (∀ c ∈ run, k.has c = true) ∧ next (run.getLast?.or before) rest = some m ∧
          n = run.length + m :=
      ⟨[], c :: t, n, rfl, by simp, h, (Nat.zero_add n).symm⟩
    rw [runLength] at h
    split at h
    next hc =>
      split at h
      next n' hrun =>
        obtain ⟨run, rest, m, rfl, hhas, hnext, rfl⟩ := ih hrun
        obtain rfl := Option.some.inj h
        refine ⟨c :: run, rest, m, rfl, List.forall_mem_cons.mpr ⟨hc, hhas⟩, ?_, ?_⟩
        · rw [getLast?_cons_or, hnext]
        · rw [List.length_cons, Nat.add_right_comm]
      next => exact stop h
    next => exact stop h

/-- **A run is as long as it can be**, if the pieces behind it match there. -/
theorem runLength_append (hrun : ∀ c ∈ run, k.has c = true)
    (hrest : ∀ c ∈ rest.head?, k.has c = false)
    (hnext : next (run.getLast?.or before) rest = some m) :
    runLength k next before (run ++ rest) = some (run.length + m) := by
  induction run generalizing before with
  | nil =>
    rw [List.nil_append, List.length_nil, Nat.zero_add]
    cases rest with
    | nil => exact hnext
    | cons c rest =>
      rw [runLength, hrest c rfl, if_neg Bool.false_ne_true]
      exact hnext
  | cons c run ih =>
    obtain ⟨hc, hrun⟩ := List.forall_mem_cons.mp hrun
    rw [getLast?_cons_or] at hnext
    rw [List.cons_append, runLength, if_pos hc, ih hrun hnext, List.length_cons]
    exact congrArg some (Nat.add_right_comm run.length m 1)

theorem matchLength_some_eq_some (h : matchLength (.some k :: later) before t = some n) :
    ∃ run rest m, t = run ++ rest ∧ run ≠ [] ∧ (∀ c ∈ run, k.has c = true) ∧
      matchLength later run.getLast? rest = some m ∧ n = run.length + m := by
  cases t with
  | nil => cases h
  | cons c t =>
    rw [matchLength] at h
    split at h
    next hc =>
      obtain ⟨n', hrun, rfl⟩ := Option.map_eq_some_iff.mp h
      obtain ⟨run, rest, m, rfl, hhas, hlater, rfl⟩ := runLength_eq_some hrun
      refine ⟨c :: run, rest, m, rfl, List.cons_ne_nil c run,
        List.forall_mem_cons.mpr ⟨hc, hhas⟩, ?_, ?_⟩
      · rw [← Option.or_none (o := (c :: run).getLast?), getLast?_cons_or, hlater]
      · rw [List.length_cons, Nat.add_right_comm]
    next => cases h

theorem matchLength_some_append (hne : run ≠ []) (hrun : ∀ c ∈ run, k.has c = true)
    (hrest : ∀ c ∈ rest.head?, k.has c = false)
    (hlater : matchLength later run.getLast? rest = some m) :
    matchLength (.some k :: later) before (run ++ rest) = some (run.length + m) := by
  obtain ⟨c, run, rfl⟩ := List.exists_cons_of_ne_nil hne
  obtain ⟨hc, hrun⟩ := List.forall_mem_cons.mp hrun
  rw [← Option.or_none (o := (c :: run).getLast?), getLast?_cons_or] at hlater
  rw [List.cons_append, matchLength, if_pos hc, runLength_append hrun hrest hlater,
    Option.map_some, List.length_cons]
  exact congrArg some (Nat.add_right_comm run.length m 1)

theorem runLength_le_length (hnext : ∀ before t m, next before t = some m → m ≤ t.length)
    (h : runLength k next before t = some n) : n ≤ t.length := by
  obtain ⟨run, rest, m, rfl, -, hlater, rfl⟩ := runLength_eq_some h
  rw [List.length_append]
  exact Nat.add_le_add_left (hnext _ _ _ hlater) _

/-- Pieces take no more characters than there are. -/
theorem matchLength_le_length {pieces : List Piece} (h : matchLength pieces before t = some n) :
    n ≤ t.length := by
  induction pieces generalizing before t n with
  | nil =>
    rw [matchLength, Option.some.injEq] at h
    exact h ▸ Nat.zero_le _
  | cons piece later ih =>
    cases piece with
    | edge =>
      rw [matchLength] at h
      split at h
      · exact ih h
      · cases h
    | any k => exact runLength_le_length (fun _ _ _ => ih) h
    | one k =>
      cases t with
      | nil => cases h
      | cons c rest =>
        rw [matchLength] at h
        split at h
        · obtain ⟨m, hm, rfl⟩ := Option.map_eq_some_iff.mp h
          exact Nat.add_le_add_right (ih hm) 1
        · cases h
    | some k =>
      obtain ⟨run, rest, m, rfl, -, -, hlater, rfl⟩ := matchLength_some_eq_some h
      rw [List.length_append]
      exact Nat.add_le_add_left (ih hlater) _

end Runs

/-! ## Reading a text -/

section Reading

variable {p : Pattern} {before : Option Char} {t u rest : Text}

theorem occurrencesFrom_nil (p : Pattern) (taken : Nat) (before : Option Char) :
    p.occurrencesFrom taken before [] = [] := by
  cases taken <;> rfl

theorem lengthAt_le_length {n : Nat} (h : p.lengthAt before t = some n) : n ≤ t.length := by
  obtain ⟨pieces, -, hpieces⟩ := List.exists_of_findSome?_eq_some h
  exact matchLength_le_length hpieces

/-- Reading passes over a character where the pattern takes none. -/
theorem occurrencesFrom_cons_of_ne {c : Char}
    (h : ∀ n, p.lengthAt before (c :: rest) ≠ some (n + 1)) :
    p.occurrencesFrom 0 before (c :: rest) = p.occurrencesFrom 0 (some c) rest := by
  rw [occurrencesFrom]
  split
  next n hn => exact absurd hn (h n)
  next => rfl

theorem occurrencesFrom_cons_of_none {c : Char} (h : p.lengthAt before (c :: rest) = none) :
    p.occurrencesFrom 0 before (c :: rest) = p.occurrencesFrom 0 (some c) rest :=
  occurrencesFrom_cons_of_ne fun n hn => by rw [h] at hn; cases hn

theorem occurrencesFrom_taken (p : Pattern) (before : Option Char) (u rest : Text) :
    p.occurrencesFrom u.length before (u ++ rest) =
      p.occurrencesFrom 0 (u.getLast?.or before) rest := by
  induction u generalizing before with
  | nil => rfl
  | cons c u ih => rw [List.cons_append, List.length_cons, occurrencesFrom, ih, getLast?_cons_or]

/-- **Reading goes on behind an occurrence.** -/
theorem occurrencesFrom_append (hne : u ≠ []) (h : p.lengthAt before (u ++ rest) = some u.length) :
    p.occurrencesFrom 0 before (u ++ rest) = u :: p.occurrencesFrom 0 u.getLast? rest := by
  obtain ⟨c, u, rfl⟩ := List.exists_cons_of_ne_nil hne
  rw [List.cons_append, List.length_cons] at h
  rw [List.cons_append, occurrencesFrom, h]
  simp only
  rw [occurrencesFrom_taken, ← getLast?_cons_or c u none, Option.or_none, List.take_succ_cons,
    List.take_left]

end Reading

end Pattern
end CodeGloss
