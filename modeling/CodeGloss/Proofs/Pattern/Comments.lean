import CodeGloss.Language.Evidence
import CodeGloss.Proofs.Pattern.LetterCase
import CodeGloss.Proofs.Pattern.Matching
import CodeGloss.Proofs.Text.Segments

/-! # Patterns and comments

A comment on a line of its own parts the text above it from what it says.  A pattern can look over
the line feed above it with a run of blanks only; such a run goes on to the mark that the comment
begins with, and there it ends, so the pieces behind it must match at the mark or there must be none.
That a pattern has no piece that matches at the mark can be read off its pieces (`endsAtMarks`), and
then its occurrences are those above the comment and those from the mark on (`count_append_comment`).

Fixed words can be passed over if no occurrence begins in them, whatever follows them.  This is read
off the pieces and the words: `canMatch` says yes if the pieces match at the start of some text that
begins with the given one, and perhaps at other times (`canMatch_of_eq_some`).
-/
namespace CodeGloss
namespace Pattern

open Text

/-! ## Pieces at a mark -/

/-- The characters that comments begin with. -/
def marks : List Char :=
  ['#', '/', '-']

/-- Whether some blank may be of the kind. -/
def Kind.hasBlank : Kind → Bool
  | .letter c => isBlank c
  | .word => false
  | .blank | .inLine => true

/-- Whether the pieces begin with a character, and not with a blank. -/
def beginsFilled : List Piece → Bool
  | .one k :: _ | .some k :: _ => !k.hasBlank
  | _ => false

/-- Whether the pieces begin with a character, and neither with a blank nor with a mark. -/
def beginsInText : List Piece → Bool
  | .one k :: _ | .some k :: _ => !k.hasBlank && marks.all fun m => !k.has m
  | _ => false

/-- Whether a run of the kind, with the pieces behind it, ends at a mark if it goes over a line
feed. -/
def runEndsAtMarks (k : Kind) (later : List Piece) : Bool :=
  !k.has '\n' || k = .blank && (later.isEmpty || beginsInText later)

/-- Whether pieces that go over a line feed end at a mark.  Pieces at the edge of a word may not. -/
def endsAtMarks : List Piece → Bool
  | [] => true
  | .edge :: _ => false
  | .one k :: later => !k.has '\n' && endsAtMarks later
  | .any k :: later | .some k :: later => runEndsAtMarks k later && endsAtMarks later

/-- What is taken of a text of the given size and a line feed, if there are `n` blanks behind the
line feed: the blanks are taken with it. -/
def stretched (size n taken : Nat) : Nat :=
  if taken ≤ size then taken else taken + n

/-- How pieces match a text with a comment behind it: what they take of the text and the line feed,
and with the line feed all blanks behind it. -/
def EndsAt (comment blanks : Text) (next : Option Char → Text → Option Nat) : Prop :=
  ∀ before t, next before (t ++ '\n' :: (blanks ++ comment)) =
    (next before (t ++ ['\n'])).map (stretched t.length blanks.length)

/-- The text of a comment from its mark on. -/
def BeginsWithMark (comment : Text) : Prop :=
  ∃ m ∈ marks, ∃ words, comment = m :: words

variable {k : Kind} {next : Option Char → Text → Option Nat} {later pieces : List Piece}
  {comment blanks : Text} {before : Option Char}

theorem isBlank_of_mem_marks {m : Char} (h : m ∈ marks) : isBlank m = false := by
  simp only [marks, List.mem_cons, List.not_mem_nil, or_false] at h
  rcases h with rfl | rfl | rfl <;> decide

theorem isBlank_fold (c : Char) : isBlank (fold c) = isBlank c := by
  unfold fold
  split
  next h => subst h; decide
  next =>
    split
    next h => subst h; decide
    next => exact isBlank_toLower c

theorem has_eq_false_of_not_hasBlank (h : k.hasBlank = false) {c : Char} (hc : isBlank c = true) :
    k.has c = false := by
  cases k with
  | letter a =>
    refine decide_eq_false fun hfold => ?_
    have hsame : isBlank a = isBlank c := by rw [← isBlank_fold a, hfold, isBlank_fold]
    rw [← hsame] at hc
    exact absurd (hc.symm.trans h) (by decide)
  | word => exact isWord_of_isBlank hc
  | blank | inLine => cases h

/-- Pieces that begin with a character in a text match neither at a blank nor at a mark. -/
theorem matchLength_of_beginsInText (h : beginsInText pieces = true) :
    (∀ before, matchLength pieces before [] = none) ∧
      ∀ before c rest, isBlank c = true ∨ c ∈ marks → matchLength pieces before (c :: rest) = none := by
  cases pieces with
  | nil => cases h
  | cons piece later =>
    cases piece with
    | edge | any k => cases h
    | one k | some k =>
      obtain ⟨hblank, hmarks⟩ := Bool.and_eq_true_iff.mp h
      refine ⟨fun _ => rfl, fun before c rest hc => ?_⟩
      have hnot : k.has c = false := by
        rcases hc with hc | hc
        · exact has_eq_false_of_not_hasBlank (by simpa using hblank) hc
        · simpa using List.all_eq_true.mp hmarks c hc
      simp [matchLength, hnot]

/-! ## Runs -/

/-- A run behind a line feed takes the blanks, if it takes the line feed. -/
def TakesBlanks (comment blanks : Text) (k : Kind) (next : Option Char → Text → Option Nat) : Prop :=
  k.has '\n' = true → ∀ before, runLength k next before (blanks ++ comment) =
    (next before []).map (· + blanks.length)

theorem takesBlanks_nil (hcomment : BeginsWithMark comment) (hblanks : ∀ c ∈ blanks, isBlank c = true) :
    TakesBlanks comment blanks .blank (matchLength []) := by
  obtain ⟨m, hm, words, rfl⟩ := hcomment
  intro _ before
  refine (runLength_append hblanks ?_ rfl).trans ?_
  · intro c hc
    obtain rfl := Option.some.inj hc
    exact isBlank_of_mem_marks hm
  · simp [matchLength]

theorem takesBlanks_of_beginsInText (h : beginsInText later = true)
    (hcomment : BeginsWithMark comment) (hblanks : ∀ c ∈ blanks, isBlank c = true) :
    TakesBlanks comment blanks .blank (matchLength later) := by
  obtain ⟨m, hm, words, rfl⟩ := hcomment
  obtain ⟨hnil, hcons⟩ := matchLength_of_beginsInText h
  intro _ before
  rw [hnil, Option.map_none]
  induction blanks generalizing before with
  | nil =>
    have hmark : Kind.blank.has m = false := isBlank_of_mem_marks hm
    rw [List.nil_append, runLength, if_neg (by simp [hmark])]
    exact hcons before m words (Or.inr hm)
  | cons c blanks ih =>
    obtain ⟨hc, hblanks⟩ := List.forall_mem_cons.mp hblanks
    have hblank : Kind.blank.has c = true := hc
    rw [List.cons_append, runLength, if_pos hblank, ih hblanks]
    exact hcons before c _ (Or.inl hc)

theorem takesBlanks_of_runEndsAtMarks (h : runEndsAtMarks k later = true)
    (hcomment : BeginsWithMark comment) (hblanks : ∀ c ∈ blanks, isBlank c = true) :
    TakesBlanks comment blanks k (matchLength later) := by
  simp only [runEndsAtMarks, Bool.or_eq_true, Bool.and_eq_true, Bool.not_eq_true', decide_eq_true_eq,
    List.isEmpty_iff] at h
  rcases h with hfeed | ⟨rfl, rfl | hlater⟩
  · intro hk
    exact absurd (hk.symm.trans hfeed) (by decide)
  · exact takesBlanks_nil hcomment hblanks
  · exact takesBlanks_of_beginsInText hlater hcomment hblanks

theorem map_add_one_stretched (size n : Nat) (taken? : Option Nat) :
    (taken?.map (stretched size n)).map (· + 1) =
      (taken?.map (· + 1)).map (stretched (size + 1) n) := by
  cases taken? with
  | none => rfl
  | some taken =>
    simp only [Option.map_some, stretched, Nat.add_le_add_iff_right]
    split
    · rfl
    · rw [Nat.add_right_comm]

theorem runLength_endsAt (hnext : EndsAt comment blanks next)
    (hrun : TakesBlanks comment blanks k next) : EndsAt comment blanks (runLength k next) := by
  intro before t
  induction t generalizing before with
  | nil =>
    have hstop := hnext before []
    rw [List.nil_append, List.nil_append] at hstop ⊢
    rw [runLength, runLength, runLength]
    by_cases hfeed : k.has '\n' = true
    · rw [if_pos hfeed, if_pos hfeed, hrun hfeed]
      -- if nothing matches behind the run, it gives the line feed back in both texts
      cases next (some '\n') [] with
      | none => exact hstop
      | some taken => simp [stretched, Nat.add_right_comm]
    · rw [if_neg hfeed, if_neg hfeed]
      exact hstop
  | cons c t ih =>
    have hstop := hnext before (c :: t)
    rw [List.cons_append, List.cons_append] at hstop ⊢
    rw [runLength, runLength, ih]
    split
    · have hstep := map_add_one_stretched t.length blanks.length
        (runLength k next (some c) (t ++ ['\n']))
      cases hrest : runLength k next (some c) (t ++ ['\n']) with
      | none => exact hstop
      | some taken =>
        rw [hrest] at hstep
        exact hstep
    · exact hstop

/-! ## Pieces -/

/-- **The check is sound**: pieces that pass it take nothing of a comment. -/
theorem matchLength_endsAt (h : endsAtMarks pieces = true) (hcomment : BeginsWithMark comment)
    (hblanks : ∀ c ∈ blanks, isBlank c = true) : EndsAt comment blanks (matchLength pieces) := by
  induction pieces with
  | nil =>
    intro before t
    simp [matchLength, stretched]
  | cons piece later ih =>
    intro before t
    cases piece with
    | edge => cases h
    | any k =>
      obtain ⟨hrun, hlater⟩ := Bool.and_eq_true_iff.mp h
      exact runLength_endsAt (ih hlater)
        (takesBlanks_of_runEndsAtMarks hrun hcomment hblanks) before t
    | one k =>
      obtain ⟨hk, hlater⟩ := Bool.and_eq_true_iff.mp h
      cases t with
      | nil => simp_all [matchLength]
      | cons c t =>
        rw [List.cons_append, List.cons_append, matchLength, matchLength, ih hlater]
        split
        · exact map_add_one_stretched t.length blanks.length _
        · rfl
    | some k =>
      obtain ⟨hrun, hlater⟩ := Bool.and_eq_true_iff.mp h
      have htakes := takesBlanks_of_runEndsAtMarks hrun hcomment hblanks
      cases t with
      | nil =>
        rw [List.nil_append, List.nil_append, matchLength, matchLength, runLength]
        by_cases hfeed : k.has '\n' = true
        · rw [if_pos hfeed, if_pos hfeed, htakes hfeed]
          cases matchLength later (some '\n') [] with
          | none => rfl
          | some taken => simp [stretched, Nat.add_right_comm]
        · rw [if_neg hfeed, if_neg hfeed]
          rfl
      | cons c t =>
        rw [List.cons_append, List.cons_append, matchLength, matchLength,
          runLength_endsAt (ih hlater) htakes]
        split
        · exact map_add_one_stretched t.length blanks.length _
        · rfl

theorem matchLength_of_beginsFilled (h : beginsFilled pieces = true) {c : Char}
    (hc : isBlank c = true) (before : Option Char) (rest : Text) :
    matchLength pieces before (c :: rest) = none := by
  cases pieces with
  | nil => cases h
  | cons piece later =>
    cases piece with
    | edge | any k => cases h
    | one k | some k =>
      have hnot : k.has c = false := has_eq_false_of_not_hasBlank (by simpa [beginsFilled] using h) hc
      simp [matchLength, hnot]

/-- Pieces that begin with a character do not look at the one in front of it. -/
theorem matchLength_eq_none_before (h : beginsFilled pieces = true) (before : Option Char)
    (t : Text) : matchLength pieces before t = matchLength pieces none t := by
  cases pieces with
  | nil => cases h
  | cons piece later =>
    cases piece with
    | edge | any k => cases h
    | one k | some k => cases t <;> rfl

/-! ## Occurrences -/

/-- Whether comments part the occurrences of a pattern: none of its alternatives begins with a blank,
and none takes anything of a comment. -/
def partedByComments (p : Pattern) : Bool :=
  p.alternatives.all fun pieces => beginsFilled pieces && endsAtMarks pieces

section Occurrences

variable {p : Pattern}

theorem lengthAt_endsAt (h : p.partedByComments = true) (hcomment : BeginsWithMark comment)
    (hblanks : ∀ c ∈ blanks, isBlank c = true) : EndsAt comment blanks p.lengthAt := by
  intro before t
  obtain ⟨alternatives⟩ := p
  simp only [lengthAt]
  induction alternatives with
  | nil => rfl
  | cons pieces later ih =>
    obtain ⟨hpieces, hlater⟩ := Bool.and_eq_true_iff.mp h
    have hmatch :=
      matchLength_endsAt (Bool.and_eq_true_iff.mp hpieces).2 hcomment hblanks before t
    rw [List.findSome?_cons, List.findSome?_cons, hmatch, ih hlater]
    cases matchLength pieces before (t ++ ['\n']) <;> rfl

theorem lengthAt_blank (h : p.partedByComments = true) {c : Char} (hc : isBlank c = true)
    (before : Option Char) (rest : Text) : p.lengthAt before (c :: rest) = none := by
  refine List.findSome?_eq_none_iff.mpr fun pieces hmem => ?_
  have hcheck := List.all_eq_true.mp h pieces hmem
  exact matchLength_of_beginsFilled (Bool.and_eq_true_iff.mp hcheck).1 hc before rest

theorem lengthAt_eq_none_before (h : p.partedByComments = true) (before : Option Char) (t : Text) :
    p.lengthAt before t = p.lengthAt none t := by
  obtain ⟨alternatives⟩ := p
  simp only [lengthAt]
  induction alternatives with
  | nil => rfl
  | cons pieces later ih =>
    obtain ⟨hpieces, hlater⟩ := Bool.and_eq_true_iff.mp h
    have hmatch := matchLength_eq_none_before (Bool.and_eq_true_iff.mp hpieces).1 before t
    rw [List.findSome?_cons, List.findSome?_cons, hmatch, ih hlater]

/-- What is found in a text does not depend on the character in front of it. -/
theorem occurrencesFrom_eq_occurrences (h : p.partedByComments = true) (before : Option Char)
    (t : Text) : p.occurrencesFrom 0 before t = p.occurrences t := by
  rw [occurrences]
  cases t with
  | nil => rfl
  | cons c rest => rw [occurrencesFrom, occurrencesFrom, lengthAt_eq_none_before h]

theorem occurrences_blanks_append (h : p.partedByComments = true)
    (hblanks : ∀ c ∈ blanks, isBlank c = true) (t : Text) :
    p.occurrences (blanks ++ t) = p.occurrences t := by
  induction blanks with
  | nil => rfl
  | cons c blanks ih =>
    obtain ⟨hc, hblanks⟩ := List.forall_mem_cons.mp hblanks
    rw [List.cons_append, occurrences, occurrencesFrom_cons_of_none (lengthAt_blank h hc none _),
      occurrencesFrom_eq_occurrences h, ih hblanks]

theorem count_lineFeed_cons (h : p.partedByComments = true) (t : Text) :
    p.count ('\n' :: t) = p.count t := by
  have hfeed : ∀ c ∈ ['\n'], isBlank c = true := List.forall_mem_singleton.mpr (by decide)
  exact congrArg List.length (occurrences_blanks_append h hfeed t)

/-- An occurrence above a comment is one whether the comment is there or not, and reading goes on
behind it. -/
theorem exists_of_lengthAt_lineFeed (h : p.partedByComments = true) (hcomment : BeginsWithMark comment)
    (hblanks : ∀ c ∈ blanks, isBlank c = true) {t : Text} {n : Nat}
    (hlength : p.lengthAt before (t ++ ['\n']) = some (n + 1)) :
    (∃ u v, t = u ++ v ∧ u.length = n + 1 ∧
      p.lengthAt before (t ++ '\n' :: (blanks ++ comment)) = some (n + 1)) ∨
    n = t.length ∧ p.lengthAt before (t ++ '\n' :: (blanks ++ comment)) =
      some (t ++ '\n' :: blanks).length := by
  have hlonger := lengthAt_endsAt h hcomment hblanks before t
  rw [hlength, Option.map_some] at hlonger
  have hle : n + 1 ≤ t.length + 1 := by simpa using lengthAt_le_length hlength
  by_cases hinside : n + 1 ≤ t.length
  · refine Or.inl ⟨t.take (n + 1), t.drop (n + 1), (List.take_append_drop _ t).symm, ?_, ?_⟩
    · rw [List.length_take, Nat.min_eq_left hinside]
    · rw [hlonger, stretched, if_pos hinside]
  · have hall : n = t.length := by omega
    refine Or.inr ⟨hall, ?_⟩
    rw [hlonger, stretched, if_neg hinside, List.length_append, List.length_cons, hall]
    congr 1
    omega

/-- Where nothing is found above a comment nothing is found when the comment is there. -/
theorem lengthAt_comment_ne (h : p.partedByComments = true) (hcomment : BeginsWithMark comment)
    (hblanks : ∀ c ∈ blanks, isBlank c = true) {t : Text}
    (hne : ∀ n, p.lengthAt before (t ++ ['\n']) ≠ some (n + 1)) (n : Nat) :
    p.lengthAt before (t ++ '\n' :: (blanks ++ comment)) ≠ some (n + 1) := by
  intro hlength
  rw [lengthAt_endsAt h hcomment hblanks] at hlength
  obtain ⟨taken, htaken, hstretched⟩ := Option.map_eq_some_iff.mp hlength
  cases taken with
  | zero => simp [stretched] at hstretched
  | succ taken => exact hne taken htaken

theorem length_occurrencesFrom_append_comment (h : p.partedByComments = true)
    (hcomment : BeginsWithMark comment) (hblanks : ∀ c ∈ blanks, isBlank c = true)
    (before : Option Char) (t : Text) :
    (p.occurrencesFrom 0 before (t ++ '\n' :: (blanks ++ comment))).length =
      (p.occurrencesFrom 0 before (t ++ ['\n'])).length + (p.occurrences comment).length := by
  match t with
  | [] =>
    have hfeed : isBlank '\n' = true := by decide
    rw [List.nil_append, List.nil_append, occurrencesFrom_cons_of_none (lengthAt_blank h hfeed _ _),
      occurrencesFrom_eq_occurrences h, occurrences_blanks_append h hblanks,
      occurrencesFrom_cons_of_none (lengthAt_blank h hfeed _ _), occurrencesFrom_nil,
      List.length_nil, Nat.zero_add]
  | c :: rest =>
    by_cases hne : ∀ n, p.lengthAt before (c :: rest ++ ['\n']) ≠ some (n + 1)
    · have hskip := lengthAt_comment_ne h hcomment hblanks hne
      rw [List.cons_append] at hne hskip
      rw [List.cons_append, List.cons_append, occurrencesFrom_cons_of_ne hskip,
        occurrencesFrom_cons_of_ne hne,
        length_occurrencesFrom_append_comment h hcomment hblanks (some c) rest]
    · obtain ⟨n, hn⟩ := not_forall_not.mp hne
      rcases exists_of_lengthAt_lineFeed h hcomment hblanks hn with
        ⟨u, v, htext, hlength, hlonger⟩ | ⟨hall, hlonger⟩
      · have hpos : u ≠ [] := List.ne_nil_of_length_pos (by omega)
        have hshorter : v.length < (c :: rest).length := by
          rw [htext, List.length_append]
          omega
        rw [htext, ← hlength, List.append_assoc] at hn hlonger
        rw [htext, List.append_assoc, List.append_assoc, occurrencesFrom_append hpos hlonger,
          occurrencesFrom_append hpos hn, List.length_cons, List.length_cons,
          length_occurrencesFrom_append_comment h hcomment hblanks u.getLast? v, Nat.add_right_comm]
      · -- the occurrence takes the line feed, and the blanks as well if the comment is there
        have htext : c :: rest ++ '\n' :: (blanks ++ comment) =
            (c :: rest ++ '\n' :: blanks) ++ comment := by simp
        have halone : p.lengthAt before ((c :: rest ++ ['\n']) ++ []) =
            some (c :: rest ++ ['\n']).length := by simpa [hall] using hn
        have hne : c :: rest ++ '\n' :: blanks ≠ [] := List.cons_ne_nil c _
        have hne' : c :: rest ++ ['\n'] ≠ [] := List.cons_ne_nil c _
        rw [htext] at hlonger ⊢
        rw [occurrencesFrom_append hne hlonger, ← List.append_nil (c :: rest ++ ['\n']),
          occurrencesFrom_append hne' halone, List.length_cons, List.length_cons,
          occurrencesFrom_eq_occurrences h, occurrencesFrom_nil, List.length_nil, Nat.add_comm]
termination_by t.length
decreasing_by
  · exact Nat.lt_add_one rest.length
  · exact hshorter

/-- **A comment parts a pattern**: what is found above it and behind its mark is all that is found. -/
theorem count_append_comment (h : p.partedByComments = true) (hcomment : BeginsWithMark comment)
    (hblanks : ∀ c ∈ blanks, isBlank c = true) (t : Text) :
    p.count (t ++ '\n' :: (blanks ++ comment)) = p.count (t ++ ['\n']) + p.count comment :=
  length_occurrencesFrom_append_comment h hcomment hblanks none t

end Occurrences

/-! ## Fixed words -/

/-- Whether a run of the kind may begin a text that begins with the given one. -/
def runCanMatch (k : Kind) (next : Text → Bool) : Text → Bool
  | [] => true
  | c :: rest => next (c :: rest) || k.has c && runCanMatch k next rest

/-- Whether the pieces may match at the start of a text that begins with the given one. -/
def canMatch : List Piece → Text → Bool
  | [], _ => true
  | .edge :: later, t => canMatch later t
  | .any k :: later, t => runCanMatch k (canMatch later) t
  | .one _ :: _, [] => true
  | .one k :: later, c :: rest => k.has c && canMatch later rest
  | .some _ :: _, [] => true
  | .some k :: later, c :: rest => k.has c && runCanMatch k (canMatch later) rest

/-- Whether no occurrence begins in the words, whatever follows them. -/
def silentOver (p : Pattern) : Text → Bool
  | [] => true
  | c :: rest =>
    (p.alternatives.all fun pieces => !canMatch pieces (c :: rest)) && silentOver p rest

section Words

variable {p : Pattern} {words t : Text} {n : Nat}

theorem runCanMatch_of_eq_some {next' : Text → Bool}
    (hnext : ∀ before words t n, next before (words ++ t) = some n → next' words = true)
    (h : runLength k next before (words ++ t) = some n) : runCanMatch k next' words = true := by
  induction words generalizing before n with
  | nil => rfl
  | cons c words ih =>
    rw [runCanMatch, Bool.or_eq_true, Bool.and_eq_true]
    rw [List.cons_append, runLength] at h
    split at h
    next hc =>
      split at h
      next n' hrest => exact Or.inr ⟨hc, ih hrest⟩
      next => exact Or.inl (hnext before (c :: words) t n h)
    next => exact Or.inl (hnext before (c :: words) t n h)

/-- **The answer no is right**: pieces that match may match. -/
theorem canMatch_of_eq_some (h : matchLength pieces before (words ++ t) = some n) :
    canMatch pieces words = true := by
  induction pieces generalizing before words t n with
  | nil => rfl
  | cons piece later ih =>
    cases piece with
    | edge =>
      rw [matchLength] at h
      split at h
      · exact ih h
      · cases h
    | any k => exact runCanMatch_of_eq_some (fun _ _ _ _ => ih) h
    | one k =>
      cases words with
      | nil => rfl
      | cons c words =>
        rw [List.cons_append, matchLength] at h
        split at h
        next hc =>
          obtain ⟨m, hm, -⟩ := Option.map_eq_some_iff.mp h
          exact Bool.and_eq_true_iff.mpr ⟨hc, ih hm⟩
        next => cases h
    | some k =>
      cases words with
      | nil => rfl
      | cons c words =>
        rw [List.cons_append, matchLength] at h
        split at h
        next hc =>
          obtain ⟨m, hm, -⟩ := Option.map_eq_some_iff.mp h
          exact Bool.and_eq_true_iff.mpr ⟨hc, runCanMatch_of_eq_some (fun _ _ _ _ => ih) hm⟩
        next => cases h

/-- **Words in which no occurrence begins are passed over.** -/
theorem occurrences_append_of_silent (h : p.partedByComments = true)
    (hwords : p.silentOver words = true) (t : Text) :
    p.occurrences (words ++ t) = p.occurrences t := by
  induction words with
  | nil => rfl
  | cons c words ih =>
    obtain ⟨hc, hlater⟩ := Bool.and_eq_true_iff.mp hwords
    have hnone : p.lengthAt none (c :: (words ++ t)) = none := by
      refine List.findSome?_eq_none_iff.mpr fun pieces hmem => Option.eq_none_iff_forall_ne_some.mpr ?_
      intro n hn
      have hcan : canMatch pieces (c :: words) = true := canMatch_of_eq_some hn
      simpa [hcan] using List.all_eq_true.mp hc pieces hmem
    rw [List.cons_append, occurrences, occurrencesFrom_cons_of_none hnone,
      occurrencesFrom_eq_occurrences h, ih hlater]

theorem count_append_of_silent (h : p.partedByComments = true)
    (hwords : p.silentOver words = true) (t : Text) : p.count (words ++ t) = p.count t := by
  rw [count, occurrences_append_of_silent h hwords, count]

end Words

/-- Comments part every clue of a language. -/
theorem partedByComments_clues (l : Language) :
    ∀ pieces ∈ l.clues, partedByComments ⟨[pieces]⟩ = true := by
  cases l <;> decide +kernel

end Pattern
end CodeGloss
