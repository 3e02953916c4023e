import CodeGloss.Conversation.Loop
import CodeGloss.Proofs.Conversation.Messages

/-! # Events and messages

The loop takes in events; what it does is told by messages.  `answerAll` answers whole messages one
after another.  Reading lines comes to the same as answering the messages that are finished, with
the lines of the unfinished one pending (`runFrom_lines`).

A loop that has ended ignores what follows, be it events or messages.
-/
namespace CodeGloss
namespace Loop

open Text Conversation

variable {palette : Palette}

/-! ## One part after another -/

/-- What two parts of a conversation show, one after the other, and the loop behind both. -/
def andThen (first : Text × Loop) (next : Loop → Text × Loop) : Text × Loop :=
  (first.1 ++ (next first.2).1, (next first.2).2)

theorem nil_andThen (s : Loop) (next : Loop → Text × Loop) : andThen ([], s) next = next s := rfl

theorem andThen_assoc (first : Text × Loop) (f g : Loop → Text × Loop) :
    andThen (andThen first f) g = andThen first fun s => andThen (f s) g := by
  simp only [andThen, List.append_assoc]

/-- Only the loop behind the first part matters to the second. -/
theorem andThen_congr {first : Text × Loop} {f g : Loop → Text × Loop}
    (h : f first.2 = g first.2) : andThen first f = andThen first g := by
  rw [andThen, andThen, h]

/-! ## Runs -/

theorem runFrom_cons (s : Loop) (event : InputEvent) (later : List InputEvent) :
    runFrom palette s (event :: later) =
      andThen (step palette s event) fun s => runFrom palette s later := rfl

theorem runFrom_singleton (s : Loop) (event : InputEvent) :
    runFrom palette s [event] = step palette s event := by
  simp [runFrom]

theorem runFrom_append (s : Loop) (xs ys : List InputEvent) :
    runFrom palette s (xs ++ ys) =
      andThen (runFrom palette s xs) fun s => runFrom palette s ys := by
  induction xs generalizing s with
  | nil => rfl
  | cons event xs ih =>
    rw [List.cons_append, runFrom_cons, runFrom_cons, andThen_assoc]
    exact andThen_congr (ih _)

theorem step_of_ended {s : Loop} {ending : Ending} (h : s.ending = some ending)
    (event : InputEvent) : step palette s event = ([], s) := by
  rw [step.eq_def, h]

/-- **A loop that has ended ignores what follows.** -/
theorem runFrom_of_ended {s : Loop} {ending : Ending} (h : s.ending = some ending)
    (events : List InputEvent) : runFrom palette s events = ([], s) := by
  induction events with
  | nil => rfl
  | cons event later ih => rw [runFrom_cons, step_of_ended h, nil_andThen, ih]

/-! ## One message -/

/-- Only the conversation matters to an answer. -/
theorem answerLines_eq (s : Loop) (message : List Text) :
    answerLines palette s message =
      answerLines palette { conversation := s.conversation } message := rfl

theorem answerLines_of_error {c : Conversation} {message : List Text} {overflow : Overflow}
    (h : answerTo c.settings (content message) = .error overflow) :
    answerLines palette { conversation := c } message =
      ([], { conversation := c, ending := some (.overflow overflow) }) := by
  have htake : c.take (ofPieces message) = .error overflow := by
    simp only [take, content] at h ⊢
    rw [h]
    rfl
  rw [answerLines, htake]

theorem answerLines_of_ok {c : Conversation} {message : List Text} {answer : Answer}
    {kind : MessageKind} (h : answerTo c.settings (content message) = .ok (answer, kind)) :
    answerLines palette { conversation := c } message =
      (answer.render palette ++ ['\n'] ++ if answer.isLast then [] else prompt,
        { conversation := { c with record := c.record ++ [⟨content message, kind⟩] }
          ending := if answer.isLast then some .left else none }) := by
  have htake : c.take (ofPieces message) =
      .ok (answer, { c with record := c.record ++ [⟨content message, kind⟩] }) := by
    simp only [take, content] at h ⊢
    rw [h]
    rfl
  rw [answerLines, htake]
  cases hlast : answer.isLast <;> simp [hlast]

/-- Behind an answer the loop has ended or is as it was at the start. -/
theorem answerLines_of_open {c : Conversation} {message : List Text}
    (h : (answerLines palette { conversation := c } message).2.ending = none) :
    (answerLines palette { conversation := c } message).2 =
      { conversation := (answerLines palette { conversation := c } message).2.conversation } := by
  cases hanswer : answerTo c.settings (content message) with
  | error overflow =>
    rw [answerLines_of_error hanswer] at h
    cases h
  | ok result =>
    rw [answerLines_of_ok hanswer] at h ⊢
    simp only at h ⊢
    rw [h]

/-! ## Many messages -/

/-- Answers messages one after another. -/
def answerAll (palette : Palette) (s : Loop) : List (List Text) → Text × Loop
  | [] => ([], s)
  | message :: later =>
    match s.ending with
    | some _ => ([], s)
    | none => andThen (answerLines palette s message) fun s => answerAll palette s later

theorem answerAll_of_ended {s : Loop} {ending : Ending} (h : s.ending = some ending)
    (messages : List (List Text)) : answerAll palette s messages = ([], s) := by
  cases messages with
  | nil => rfl
  | cons message later => rw [answerAll, h]

theorem answerAll_cons (c : Conversation) (message : List Text) (later : List (List Text)) :
    answerAll palette { conversation := c } (message :: later) =
      andThen (answerLines palette { conversation := c } message)
        fun s => answerAll palette s later := rfl

theorem answerAll_append (s : Loop) (xs ys : List (List Text)) :
    answerAll palette s (xs ++ ys) =
      andThen (answerAll palette s xs) fun s => answerAll palette s ys := by
  induction xs generalizing s with
  | nil => rfl
  | cons message xs ih =>
    cases hending : s.ending with
    | some ending => simp only [answerAll_of_ended hending, nil_andThen]
    | none =>
      simp only [List.cons_append, answerAll, hending, andThen_assoc]
      exact andThen_congr (ih _)

/-! ## One line -/

/-- **A line answers one message or changes nothing but what is pending.** -/
theorem stepLine_cases (palette : Palette) (s : Loop) (content : Text) :
    (∃ pending, stepLine palette s content = ([], { s with pending })) ∨
      ∃ message, stepLine palette s content = answerLines palette s message := by
  unfold stepLine
  split
  · split
    · exact Or.inl ⟨s.pending, rfl⟩
    · exact Or.inr ⟨s.pending, rfl⟩
  · split
    · exact Or.inr ⟨[content], rfl⟩
    · exact Or.inl ⟨s.pending ++ [content], rfl⟩

theorem step_blank (c : Conversation) {line : Text} (h : allBlank line = true) :
    step palette { conversation := c } (.line line) = ([], { conversation := c }) := by
  simp [step, stepLine, h]

theorem step_command (c : Conversation) {line : Text} (hblank : ¬ allBlank line = true)
    (hcommand : (chatCommand? line).isSome = true) :
    step palette { conversation := c } (.line line) =
      answerLines palette { conversation := c } [line] := by
  simp [step, stepLine, hblank, hcommand]

theorem step_opening (c : Conversation) {line : Text} (hblank : ¬ allBlank line = true)
    (hcommand : ¬ (chatCommand? line).isSome = true) :
    step palette { conversation := c } (.line line) =
      ([], { conversation := c, pending := [line] }) := by
  simp [step, stepLine, hblank, hcommand]

/-- A filled line goes to the message that is not finished, whether it is a command or not. -/
theorem step_pending (c : Conversation) {pending : List Text} (hpending : pending ≠ [])
    {line : Text} (h : isFilled line = true) :
    step palette { conversation := c, pending } (.line line) =
      ([], { conversation := c, pending := pending ++ [line] }) := by
  have hblank : allBlank line = false := by simpa [isFilled] using h
  simp [step, stepLine, hblank, hpending]

theorem step_closing (c : Conversation) {pending : List Text} (hpending : pending ≠ [])
    {line : Text} (h : allBlank line = true) :
    step palette { conversation := c, pending } (.line line) =
      answerLines palette { conversation := c } pending := by
  rw [← answerLines_eq { conversation := c, pending }]
  simp [step, stepLine, h, hpending]

/-- Behind an answer a blank line changes nothing. -/
theorem step_blank_answerLines (c : Conversation) (message : List Text) {line : Text}
    (h : allBlank line = true) :
    step palette (answerLines palette { conversation := c } message).2 (.line line) =
      ([], (answerLines palette { conversation := c } message).2) := by
  cases hending : (answerLines palette { conversation := c } message).2.ending with
  | some ending => exact step_of_ended hending _
  | none =>
    rw [answerLines_of_open hending]
    exact step_blank _ h

/-! ## Many lines -/

theorem runFrom_pending (c : Conversation) {pending lines : List Text} (hpending : pending ≠ [])
    (h : ∀ line ∈ lines, isFilled line = true) :
    runFrom palette { conversation := c, pending } (lines.map .line) =
      ([], { conversation := c, pending := pending ++ lines }) := by
  induction lines generalizing pending with
  | nil => rw [List.append_nil]; rfl
  | cons line later ih =>
    rw [List.forall_mem_cons] at h
    rw [List.map_cons, runFrom_cons, step_pending c hpending h.1, nil_andThen,
      ih (List.append_ne_nil_of_right_ne_nil pending (List.cons_ne_nil line [])) h.2,
      List.append_assoc]
    rfl

/-- The loop with lines pending, unless it has ended. -/
def await (s : Loop) (lines : List Text) : Loop :=
  match s.ending with
  | some _ => s
  | none => { s with pending := lines }

@[simp] theorem await_ending (s : Loop) (lines : List Text) :
    (s.await lines).ending = s.ending := by
  unfold await
  split <;> simp [*]

@[simp] theorem await_conversation (s : Loop) (lines : List Text) :
    (s.await lines).conversation = s.conversation := by
  unfold await
  split <;> rfl

/-- What reading lines comes to: the finished messages are answered, and the lines of the unfinished
one are pending. -/
def reading (palette : Palette) (s : Loop) (lines : List Text) : Text × Loop :=
  andThen (answerAll palette s (finished lines)) fun s => ([], s.await (unfinished lines))

theorem reading_of_ended {s : Loop} {ending : Ending} (h : s.ending = some ending)
    (lines : List Text) : reading palette s lines = ([], s) := by
  rw [reading, answerAll_of_ended h, nil_andThen, await, h]

/-- To read lines behind an answer it is enough to know how they are read at the start. -/
theorem runFrom_answerLines (c : Conversation) (message : List Text) {lines : List Text}
    (h : ∀ c', runFrom palette { conversation := c' } (lines.map .line) =
      reading palette { conversation := c' } lines) :
    runFrom palette (answerLines palette { conversation := c } message).2 (lines.map .line) =
      reading palette (answerLines palette { conversation := c } message).2 lines := by
  cases hending : (answerLines palette { conversation := c } message).2.ending with
  | some ending => rw [runFrom_of_ended hending, reading_of_ended hending]
  | none =>
    rw [answerLines_of_open hending]
    exact h _

/-- A run of filled lines that is not all there is has a blank line behind it. -/
theorem exists_dropWhile_eq {lines : List Text} (h : ¬ lines.all isFilled = true) :
    ∃ blank later, lines.dropWhile isFilled = blank :: later ∧ allBlank blank = true := by
  cases hdrop : lines.dropWhile isFilled with
  | nil => exact absurd (List.all_eq_true.mpr (List.dropWhile_eq_nil_iff.mp hdrop)) h
  | cons blank later =>
    have hblank := List.head?_dropWhile_not isFilled lines
    rw [hdrop] at hblank
    exact ⟨blank, later, rfl, by simpa [isFilled] using hblank⟩

/-- A message that goes on up to a blank line is answered there. -/
theorem runFrom_closing (c : Conversation) {lines : List Text} (line : Text)
    (h : ¬ lines.all isFilled = true) :
    runFrom palette { conversation := c, pending := [line] } (lines.map .line) =
      andThen (answerLines palette { conversation := c } (line :: lines.takeWhile isFilled))
        fun s => runFrom palette s ((lines.dropWhile isFilled).map .line) := by
  obtain ⟨blank, later, hdrop, hblank⟩ := exists_dropWhile_eq h
  conv_lhs => rw [← List.takeWhile_append_dropWhile (p := isFilled) (l := lines)]
  rw [List.map_append, runFrom_append,
    runFrom_pending c (List.cons_ne_nil line []) fun _ => List.mem_takeWhile_imp, nil_andThen,
    hdrop, List.map_cons, runFrom_cons]
  rw [List.singleton_append, step_closing c (List.cons_ne_nil _ _) hblank]
  refine andThen_congr ?_
  rw [runFrom_cons, step_blank_answerLines c _ hblank, nil_andThen]

/-- **Reading lines is answering the finished messages**, and the lines of the unfinished one are
pending. -/
theorem runFrom_lines (c : Conversation) (lines : List Text) :
    runFrom palette { conversation := c } (lines.map .line) =
      reading palette { conversation := c } lines := by
  -- the lines are taken message by message; behind an answer the conversation is another one
  fun_induction messages lines generalizing c with
  | case1 => rw [reading, finished, unfinished]; rfl
  | case2 line rest hblank ih =>
    rw [List.map_cons, runFrom_cons, step_blank c hblank, nil_andThen, ih, reading, reading,
      finished, unfinished, if_pos hblank, if_pos hblank]
  | case3 line rest hblank hcommand ih =>
    rw [List.map_cons, runFrom_cons, step_command c hblank hcommand, reading, finished, unfinished,
      if_neg hblank, if_neg hblank, if_pos hcommand, if_pos hcommand, answerAll_cons,
      andThen_assoc]
    exact andThen_congr (runFrom_answerLines c [line] ih)
  | case4 line rest hblank hcommand ih =>
    rw [List.map_cons, runFrom_cons, step_opening c hblank hcommand, nil_andThen, reading, finished,
      unfinished, if_neg hblank, if_neg hblank, if_neg hcommand, if_neg hcommand]
    by_cases hrest : rest.all isFilled = true
    · rw [runFrom_pending c (List.cons_ne_nil line []) (List.all_eq_true.mp hrest), if_pos hrest,
        if_pos hrest]
      rfl
    · rw [runFrom_closing c line hrest, if_neg hrest, if_neg hrest, answerAll_cons, andThen_assoc]
      exact andThen_congr (runFrom_answerLines c _ ih)

end Loop
end CodeGloss
