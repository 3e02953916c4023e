import CodeGloss.Proofs.Pattern.Comments

/-! # The places where a pattern matches

The occurrences of a pattern share no character, so a pattern may match at more places of a text
than it has occurrences there (`count_le_places`).  The places are easier to reason about, since
none of them depends on another one: where a pattern matches, its first pieces do
(`places_append_le`).

There is one occurrence at least if the pattern matches anywhere (`count_eq_zero_iff`).  And a pattern
that begins with a character which does not come again in what it takes matches nowhere within an
occurrence, so it has as many occurrences as there are places (`count_eq_places`).  That the
character does not come again can be read off the pieces (`beginsOnce`).
-/
namespace CodeGloss
namespace Pattern

open Text

/-! ## Places -/

/-- Whether the pattern matches at some place of the text. -/
def Matches (p : Pattern) (t : Text) : Prop :=
  ∃ above below, t = above ++ below ∧ (p.lengthAt above.getLast? below).isSome

/-- The number of places at which the pattern matches in a text that follows `before`. -/
def placesFrom (p : Pattern) : (before : Option Char) → Text → Nat
  | _, [] => 0
  | before, c :: rest => (p.lengthAt before (c :: rest)).isSome.toNat + placesFrom p (some c) rest

/-- The number of places of the text at which the pattern matches. -/
def places (p : Pattern) (t : Text) : Nat :=
  placesFrom p none t

section Places

variable {p q : Pattern} {before : Option Char} {t : Text}

theorem lengthAt_singleton (pieces : List Piece) (before : Option Char) (t : Text) :
    lengthAt ⟨[pieces]⟩ before t = matchLength pieces before t := by
  simp [lengthAt]

theorem length_occurrencesFrom_le (p : Pattern) (taken : Nat) (before : Option Char) (t : Text) :
    (p.occurrencesFrom taken before t).length ≤ p.placesFrom before t := by
  induction t generalizing taken before with
  | nil => rw [occurrencesFrom_nil, placesFrom, List.length_nil]
  | cons c rest ih =>
    rw [placesFrom]
    cases taken with
    | succ taken => exact Nat.le_add_left_of_le (ih taken (some c))
    | zero =>
      rw [occurrencesFrom]
      split
      next n hn =>
        rw [List.length_cons, hn, Option.isSome_some, Bool.toNat_true, Nat.add_comm]
        exact Nat.add_le_add_left (ih n (some c)) 1
      next => exact Nat.le_add_left_of_le (ih 0 (some c))

/-- Every occurrence has a place of its own. -/
theorem count_le_places (p : Pattern) (t : Text) : p.count t ≤ p.places t :=
  length_occurrencesFrom_le p 0 none t

theorem places_mono (h : ∀ before t, (p.lengthAt before t).isSome → (q.lengthAt before t).isSome)
    (t : Text) : p.places t ≤ q.places t := by
  have hfrom (before : Option Char) : p.placesFrom before t ≤ q.placesFrom before t := by
    induction t generalizing before with
    | nil => exact Nat.le_refl 0
    | cons c rest ih =>
      rw [placesFrom, placesFrom]
      refine Nat.add_le_add ?_ (ih (some c))
      cases hp : (p.lengthAt before (c :: rest)).isSome with
      | false => exact Nat.zero_le _
      | true => rw [h before (c :: rest) hp]
  exact hfrom none

/-! ## The first pieces of a pattern -/

theorem isSome_runLength_mono {k : Kind} {next next' : Option Char → Text → Option Nat}
    (hnext : ∀ before t, (next before t).isSome → (next' before t).isSome)
    (h : (runLength k next before t).isSome) : (runLength k next' before t).isSome := by
  induction t generalizing before with
  | nil => exact hnext before [] h
  | cons c rest ih =>
    rw [runLength] at h ⊢
    split at h
    next hc =>
      rw [if_pos hc]
      split
      next => rfl
      next hstop =>
        -- the shorter run fails as well, so both go back to where they began
        have hnone : runLength k next (some c) rest = none := by
          refine Option.not_isSome_iff_eq_none.mp fun hsome => ?_
          have hsome' := ih hsome
          rw [hstop] at hsome'
          cases hsome'
        rw [hnone] at h
        exact hnext before (c :: rest) h
    next hc =>
      rw [if_neg hc]
      exact hnext before (c :: rest) h

/-- **Where pieces match, the first of them do.** -/
theorem isSome_matchLength_of_append {pieces later : List Piece}
    (h : (matchLength (pieces ++ later) before t).isSome) : (matchLength pieces before t).isSome := by
  induction pieces generalizing before t with
  | nil => rfl
  | cons piece pieces ih =>
    rw [List.cons_append] at h
    cases piece with
    | edge =>
      rw [matchLength] at h ⊢
      split at h
      next hedge => rw [if_pos hedge]; exact ih h
      next => cases h
    | any k => exact isSome_runLength_mono (fun _ _ => ih) h
    | one k =>
      cases t with
      | nil => cases h
      | cons c t =>
        rw [matchLength] at h ⊢
        split at h
        next hc =>
          rw [Option.isSome_map] at h
          rw [if_pos hc, Option.isSome_map]
          exact ih h
        next => cases h
    | some k =>
      cases t with
      | nil => cases h
      | cons c t =>
        rw [matchLength] at h ⊢
        split at h
        next hc =>
          rw [Option.isSome_map] at h
          rw [if_pos hc, Option.isSome_map]
          exact isSome_runLength_mono (fun _ _ => ih) h
        next => cases h

theorem places_append_le (pieces later : List Piece) (t : Text) :
    places ⟨[pieces ++ later]⟩ t ≤ places ⟨[pieces]⟩ t := by
  refine places_mono (fun before t h => ?_) t
  rw [lengthAt_singleton] at h ⊢
  exact isSome_matchLength_of_append h

/-! ## Whether there is an occurrence -/

theorem occurrencesFrom_eq_nil_iff (hpos : ∀ before t, p.lengthAt before t ≠ some 0) :
    p.occurrencesFrom 0 before t = [] ↔
      ∀ above below, t = above ++ below → p.lengthAt (above.getLast?.or before) below = none := by
  induction t generalizing before with
  | nil =>
    refine iff_of_true (occurrencesFrom_nil _ _ _) fun above below h => ?_
    obtain ⟨rfl, rfl⟩ := List.append_eq_nil_iff.mp h.symm
    refine Option.eq_none_iff_forall_ne_some.mpr fun n hn => hpos _ _ (hn.trans ?_)
    rw [Nat.le_zero.mp (lengthAt_le_length hn)]
  | cons c rest ih =>
    cases hlength : p.lengthAt before (c :: rest) with
    | some n =>
      obtain ⟨n, rfl⟩ := Nat.exists_eq_succ_of_ne_zero fun hn => hpos before (c :: rest) (hn ▸ hlength)
      refine iff_of_false ?_ fun h => ?_
      · rw [occurrencesFrom, hlength]
        exact List.cons_ne_nil _ _
      · have hnone := h [] (c :: rest) rfl
        rw [List.getLast?_nil, Option.none_or, hlength] at hnone
        cases hnone
    | none =>
      rw [occurrencesFrom_cons_of_none hlength, ih]
      constructor
      · intro h above below habove
        cases above with
        | nil =>
          obtain rfl : c :: rest = below := habove
          exact hlength
        | cons d above =>
          obtain ⟨rfl, hrest⟩ := List.cons.inj habove
          rw [getLast?_cons_or]
          exact h above below hrest
      · rintro h above below rfl
        rw [← getLast?_cons_or]
        exact h (c :: above) below rfl

/-- **A pattern that takes a character at least has no occurrence if and only if it matches
nowhere.** -/
theorem count_eq_zero_iff (hpos : ∀ before t, p.lengthAt before t ≠ some 0) :
    p.count t = 0 ↔ ¬ p.Matches t := by
  rw [count, List.length_eq_zero_iff, occurrences, occurrencesFrom_eq_nil_iff hpos]
  constructor
  · rintro h ⟨above, below, ht, hsome⟩
    have hnone := h above below ht
    rw [Option.or_none] at hnone
    rw [hnone] at hsome
    cases hsome
  · intro h above below ht
    rw [Option.or_none]
    exact Option.not_isSome_iff_eq_none.mp fun hsome => h ⟨above, below, ht, hsome⟩

/-- A pattern that comments part takes a character at least. -/
theorem lengthAt_ne_zero (h : p.partedByComments = true) (before : Option Char) (t : Text) :
    p.lengthAt before t ≠ some 0 := by
  intro hzero
  obtain ⟨pieces, hmem, hlength⟩ := List.exists_of_findSome?_eq_some hzero
  have hfilled := (Bool.and_eq_true_iff.mp (List.all_eq_true.mp h pieces hmem)).1
  cases pieces with
  | nil => cases hfilled
  | cons piece later =>
    cases piece with
    | edge | any k => cases hfilled
    | one k | some k => cases t <;> simp [matchLength] at hlength

end Places

/-! ## Patterns that begin with a character which does not come again -/

/-- Whether no character of the kind is the given one, in either case. -/
def Kind.refuses (a : Char) : Kind → Bool
  | .letter b => !sameLetter a b
  | .blank => !isBlank a
  | .word | .inLine => false

/-- Whether the piece takes no character that is the given one, in either case. -/
def Piece.refuses (a : Char) : Piece → Bool
  | .edge => true
  | .one k | .any k | .some k => k.refuses a

/-- Whether the pieces begin with a character that none of the other pieces takes. -/
def beginsOnce : List Piece → Bool
  | .one (.letter a) :: later => later.all (Piece.refuses a)
  | _ => false

section BeginsOnce

variable {a : Char} {k : Kind} {pieces later : List Piece} {before : Option Char} {t : Text} {n : Nat}

theorem Kind.sameLetter_eq_false (h : k.refuses a = true) {c : Char} (hc : k.has c = true) :
    sameLetter a c = false := by
  refine decide_eq_false fun hfold => ?_
  cases k with
  | word | inLine => cases h
  | letter b =>
    have hsame : sameLetter a b = true := by
      rw [sameLetter, hfold, ← of_decide_eq_true hc, decide_eq_true_eq]
    simp [refuses, hsame] at h
  | blank =>
    have hblank : isBlank a = true := by
      rw [← isBlank_fold, hfold, isBlank_fold]
      exact hc
    simp [refuses, hblank] at h

/-- Pieces that refuse a character take none that is equal to it. -/
theorem sameLetter_eq_false_of_mem_take (h : pieces.all (Piece.refuses a) = true)
    (hlength : matchLength pieces before t = some n) : ∀ c ∈ t.take n, sameLetter a c = false := by
  induction pieces generalizing before t n with
  | nil =>
    obtain rfl : 0 = n := Option.some.inj hlength
    simp
  | cons piece later ih =>
    obtain ⟨hpiece, hlater⟩ := Bool.and_eq_true_iff.mp h
    have ofRun {run rest : Text} {m : Nat} {k : Kind} {behind : Option Char}
        (hk : k.refuses a = true) (hrun : ∀ c ∈ run, k.has c = true)
        (hrest : matchLength later behind rest = some m) :
        ∀ c ∈ (run ++ rest).take (run.length + m), sameLetter a c = false := by
      rw [List.take_length_add_append, List.forall_mem_append]
      exact ⟨fun c hc => k.sameLetter_eq_false hk (hrun c hc), ih hlater hrest⟩
    cases piece with
    | edge =>
      rw [matchLength] at hlength
      split at hlength
      · exact ih hlater hlength
      · cases hlength
    | any k =>
      obtain ⟨run, rest, m, rfl, hrun, hrest, rfl⟩ := runLength_eq_some hlength
      exact ofRun hpiece hrun hrest
    | one k =>
      cases t with
      | nil => cases hlength
      | cons c t =>
        rw [matchLength] at hlength
        split at hlength
        next hc =>
          obtain ⟨m, hrest, rfl⟩ := Option.map_eq_some_iff.mp hlength
          rw [List.take_succ_cons, List.forall_mem_cons]
          exact ⟨k.sameLetter_eq_false hpiece hc, ih hlater hrest⟩
        next => cases hlength
    | some k =>
      obtain ⟨run, rest, m, rfl, -, hrun, hrest, rfl⟩ := matchLength_some_eq_some hlength
      exact ofRun hpiece hrun hrest

theorem exists_of_beginsOnce (h : beginsOnce pieces = true) :
    ∃ a later, pieces = .one (.letter a) :: later ∧ later.all (Piece.refuses a) = true := by
  cases pieces with
  | nil => cases h
  | cons piece later =>
    cases piece with
    | edge | any k | some k => cases h
    | one k =>
      cases k with
      | letter a => exact ⟨a, later, rfl, h⟩
      | word | blank | inLine => cases h

/-- Behind the first character of an occurrence nothing matches up to its end. -/
theorem exists_of_matchLength_cons {c : Char} {rest : Text} (h : beginsOnce pieces = true)
    (hlength : matchLength pieces before (c :: rest) = some n) :
    ∃ m, n = m + 1 ∧ ∀ x ∈ rest.take m, ∀ before later,
      matchLength pieces before (x :: later) = none := by
  obtain ⟨a, others, rfl, hothers⟩ := exists_of_beginsOnce h
  rw [matchLength] at hlength
  split at hlength
  next =>
    obtain ⟨m, hrest, rfl⟩ := Option.map_eq_some_iff.mp hlength
    refine ⟨m, rfl, fun x hx before later => ?_⟩
    have hother : sameLetter a x = false := sameLetter_eq_false_of_mem_take hothers hrest x hx
    rw [matchLength, Kind.has, if_neg (Bool.eq_false_iff.mp hother)]
  next => cases hlength

/-- None of the places where the pattern matches is passed over. -/
theorem length_occurrencesFrom (h : beginsOnce pieces = true) (taken : Nat) (before : Option Char)
    (t : Text) (htaken : ∀ c ∈ t.take taken, ∀ before rest,
      matchLength pieces before (c :: rest) = none) :
    (occurrencesFrom ⟨[pieces]⟩ taken before t).length = placesFrom ⟨[pieces]⟩ before t := by
  induction t generalizing taken before with
  | nil => rw [occurrencesFrom_nil, placesFrom, List.length_nil]
  | cons c rest ih =>
    rw [placesFrom, lengthAt_singleton]
    cases taken with
    | succ taken =>
      rw [List.take_succ_cons, List.forall_mem_cons] at htaken
      rw [htaken.1, occurrencesFrom, ih taken (some c) htaken.2]
      exact (Nat.zero_add _).symm
    | zero =>
      cases hlength : matchLength pieces before (c :: rest) with
      | none =>
        rw [occurrencesFrom_cons_of_none ((lengthAt_singleton ..).trans hlength), ih 0 (some c) (by simp)]
        exact (Nat.zero_add _).symm
      | some n =>
        obtain ⟨m, rfl, hbehind⟩ := exists_of_matchLength_cons h hlength
        rw [occurrencesFrom, lengthAt_singleton, hlength]
        simp only
        rw [List.length_cons, ih m (some c) hbehind, Nat.add_comm]
        rfl

/-- **A pattern that begins with a character which does not come again has an occurrence at every
place where it matches.** -/
theorem count_eq_places (h : beginsOnce pieces = true) (t : Text) :
    count ⟨[pieces]⟩ t = places ⟨[pieces]⟩ t :=
  length_occurrencesFrom h 0 none t (by simp)

end BeginsOnce

end Pattern
end CodeGloss
