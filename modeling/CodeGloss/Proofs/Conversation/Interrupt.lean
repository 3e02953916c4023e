import CodeGloss.Proofs.Conversation.Transcript

/-! # What an interrupt leaves

An interrupt comes when all that has been read is used up.  Compared with the conversation in which
the input goes on, nothing that came before the interrupt differs (`run_interrupted`): the record
and what has been shown are the beginnings of what they would have become, and only whole messages
of whole lines were answered.

The comparison needs no induction over messages.  Both conversations take in the events of the
completed lines first, and what a loop does later only adds to its record (`Grows`).
-/
namespace CodeGloss
namespace Loop

open Text Conversation InputEvent

variable {palette : Palette}

/-! ## Records grow -/

/-- How many messages the pending lines are. -/
def due (s : Loop) : Nat :=
  if s.pending = [] then 0 else 1

/-- **What one event may do to a record**: it adds at most one message, and none if lines are
pending behind it. -/
structure Grows (s s' : Loop) : Prop where
  /-- What was recorded stays. -/
  stays : s.conversation.record <+: s'.conversation.record
  /-- At most one message is added or due. -/
  length_le : s'.conversation.record.length + s'.due ≤ s.conversation.record.length + 1

theorem due_le_one (s : Loop) : s.due ≤ 1 := by
  unfold due
  split <;> omega

theorem grows_of_conversation_eq {s s' : Loop} (h : s'.conversation = s.conversation) :
    Grows s s' := by
  refine ⟨h ▸ List.prefix_rfl, ?_⟩
  rw [h]
  exact Nat.add_le_add_left (due_le_one s') _

theorem answerLines_pending (s : Loop) (message : List Text) :
    (answerLines palette s message).2.pending = [] := by
  rw [answerLines]
  split
  · rfl
  · dsimp only
    split <;> rfl

theorem grows_answerLines (palette : Palette) (s : Loop) (message : List Text) :
    Grows s (answerLines palette s message).2 := by
  have hdue : (answerLines palette s message).2.due = 0 :=
    if_pos (answerLines_pending s message)
  rw [answerLines_eq] at hdue ⊢
  cases hanswer : answerTo s.conversation.settings (content message) with
  | error overflow =>
    rw [answerLines_of_error hanswer]
    exact grows_of_conversation_eq rfl
  | ok result =>
    rw [answerLines_of_ok hanswer] at hdue ⊢
    refine ⟨List.prefix_append _ _, ?_⟩
    rw [hdue, List.length_append]
    rfl

theorem grows_stepLine (s : Loop) (content : Text) : Grows s (stepLine palette s content).2 := by
  rcases stepLine_cases palette s content with ⟨pending, hline⟩ | ⟨message, hline⟩
  · rw [hline]
    exact grows_of_conversation_eq rfl
  · rw [hline]
    exact grows_answerLines palette s message

/-- The end of the input adds nothing but the message that is due. -/
theorem length_stepEnd (s : Loop) :
    (stepEnd palette s).2.conversation.record.length ≤ s.conversation.record.length + s.due := by
  rw [stepEnd_eq, andThen, atEnd_conversation]
  by_cases hpending : s.pending = []
  · rw [if_pos hpending]
    exact Nat.le_add_right _ _
  · have hdue : s.due = 1 := if_neg hpending
    rw [if_neg hpending, hdue]
    exact Nat.le_of_add_right_le (grows_answerLines palette s s.pending).length_le

theorem grows_stepEnd (s : Loop) : Grows s (stepEnd palette s).2 := by
  rw [stepEnd_eq, andThen]
  by_cases hpending : s.pending = []
  · rw [if_pos hpending]
    exact grows_of_conversation_eq (atEnd_conversation s)
  · rw [if_neg hpending]
    obtain ⟨hstays, hlength⟩ := grows_answerLines palette s s.pending
    refine ⟨by rwa [atEnd_conversation], ?_⟩
    rw [due, atEnd_pending, atEnd_conversation]
    exact hlength

/-- **One event adds at most one message to the record.** -/
theorem grows_step (s : Loop) (event : InputEvent) : Grows s (step palette s event).2 := by
  cases hending : s.ending with
  | some ending =>
    rw [step_of_ended hending]
    exact grows_of_conversation_eq rfl
  | none =>
    rw [step.eq_def, hending]
    cases event with
    | line content => exact grows_stepLine s content
    | unreadable fault => exact grows_of_conversation_eq rfl
    | ended => exact grows_stepEnd s
    | interrupted => exact grows_of_conversation_eq rfl

/-- **A record only grows.** -/
theorem record_prefix_runFrom (s : Loop) (events : List InputEvent) :
    s.conversation.record <+: (runFrom palette s events).2.conversation.record := by
  induction events generalizing s with
  | nil => exact List.prefix_rfl
  | cons event later ih => exact (grows_step s event).stays.trans (ih _)

/-- Behind the completed lines, the rest of an input that ends adds at most one message. -/
theorem length_runFrom_final (s : Loop) {final : List InputEvent}
    (h : final = [] ∨ ∃ line, final = [ofOctets line]) :
    (runFrom palette s (final ++ [.ended])).2.conversation.record.length ≤
      s.conversation.record.length + 1 := by
  have hended : ∀ s : Loop, (step palette s .ended).2.conversation.record.length ≤
      s.conversation.record.length + s.due := by
    intro s
    cases hending : s.ending with
    | some ending =>
      rw [step_of_ended hending]
      exact Nat.le_add_right _ _
    | none =>
      rw [step.eq_def, hending]
      exact length_stepEnd s
  rcases h with rfl | ⟨line, rfl⟩
  · rw [List.nil_append, runFrom_singleton]
    exact (hended s).trans (Nat.add_le_add_left (due_le_one s) _)
  · -- a last line leaves no message due if it added one
    rw [List.singleton_append, runFrom_cons, andThen, runFrom_singleton]
    exact (hended _).trans (grows_step s _).length_le

/-! ## Lines neither interrupt nor stay open behind a fault -/

theorem answerLines_ending_ne_interrupted (s : Loop) (message : List Text) :
    (answerLines palette s message).2.ending ≠ some .interrupted := by
  rw [answerLines]
  split
  · simp
  · dsimp only
    split <;> simp

theorem step_ofOctets_ending_ne_interrupted {s : Loop} (h : s.ending ≠ some .interrupted)
    (octets : List UInt8) : (step palette s (ofOctets octets)).2.ending ≠ some .interrupted := by
  cases hending : s.ending with
  | some ending => rwa [step_of_ended hending]
  | none =>
    rw [step.eq_def, hending]
    rcases ofOctets_cases octets with ⟨content, hline⟩ | ⟨fault, hfault⟩
    · rw [hline]
      show (stepLine palette s content).2.ending ≠ some .interrupted
      rcases stepLine_cases palette s content with ⟨pending, hstep⟩ | ⟨message, hstep⟩
      · rw [hstep]
        exact h
      · rw [hstep]
        exact answerLines_ending_ne_interrupted s message
    · simp [hfault]

theorem runFrom_ending_ne_interrupted {s : Loop} (h : s.ending ≠ some .interrupted)
    (lines : List (List UInt8)) :
    (runFrom palette s (lines.map ofOctets)).2.ending ≠ some .interrupted := by
  induction lines generalizing s with
  | nil => exact h
  | cons octets later ih => exact ih (step_ofOctets_ending_ne_interrupted h octets)

/-- A loop that is still open has been given nothing but lines. -/
theorem exists_lines_of_open (palette : Palette) (s : Loop) {lines : List (List UInt8)}
    (h : (runFrom palette s (lines.map ofOctets)).2.ending = none) :
    ∃ texts : List Text, lines.map ofOctets = texts.map .line := by
  induction lines generalizing s with
  | nil => exact ⟨[], rfl⟩
  | cons octets later ih =>
    rw [List.map_cons, runFrom_cons, andThen] at h
    rcases ofOctets_cases octets with ⟨content, hline⟩ | ⟨fault, hfault⟩
    · obtain ⟨texts, htexts⟩ := ih _ h
      exact ⟨content :: texts, by rw [List.map_cons, List.map_cons, hline, htexts]⟩
    · have hended : ∃ ending, (step palette s (ofOctets octets)).2.ending = some ending := by
        cases hending : s.ending with
        | some ending => exact ⟨ending, by rw [step_of_ended hending, hending]⟩
        | none => exact ⟨.unreadable fault, by rw [step.eq_def, hending, hfault]⟩
      obtain ⟨ending, hending⟩ := hended
      rw [runFrom_of_ended hending, hending] at h
      cases h

/-- If the loop is open behind messages, all of them were answered and none leaves. -/
theorem answered_of_open {c : Conversation} {messages : List (List Text)}
    (hmessages : ∀ message ∈ messages, IsMessage message)
    (h : (answerAll palette { conversation := c } messages).2.ending = none) :
    messages.any leaves = false ∧ ∀ message ∈ messages,
      ∃ answer kind, answerTo c.settings (content message) = .ok (answer, kind) := by
  induction messages generalizing c with
  | nil => exact ⟨rfl, List.forall_mem_nil _⟩
  | cons message later ih =>
    obtain ⟨hmessage, hlater⟩ := List.forall_mem_cons.mp hmessages
    rw [answerAll_cons, andThen] at h
    cases hanswer : answerTo c.settings (content message) with
    | error overflow =>
      rw [answerLines_of_error hanswer, answerAll_of_ended rfl] at h
      cases h
    | ok result =>
      obtain ⟨answer, kind⟩ := result
      have hleaves : answer.isLast = leaves message := (answerTo_content hmessage hanswer).1
      rw [answerLines_of_ok hanswer, hleaves] at h
      cases hlast : leaves message with
      | true =>
        rw [hlast, if_pos rfl, answerAll_of_ended rfl] at h
        cases h
      | false =>
        rw [hlast] at h
        obtain ⟨hstays, hothers⟩ := ih hlater h
        exact ⟨by rw [List.any_cons, hlast, hstays]; rfl,
          List.forall_mem_cons.mpr ⟨⟨answer, kind, hanswer⟩, hothers⟩⟩

/-! ## Conversations that are interrupted -/

theorem run_append (c : Conversation) (xs ys : List InputEvent) :
    run palette c (xs ++ ys) = andThen (run palette c xs) fun s => runFrom palette s ys := by
  simp only [run, runFrom_append, andThen, List.append_assoc]

/-- What has been shown and recorded stays. -/
theorem run_prefix_append (palette : Palette) (c : Conversation) (xs ys : List InputEvent) :
    (run palette c xs).1 <+: (run palette c (xs ++ ys)).1 ∧
      (run palette c xs).2.conversation.record <+:
        (run palette c (xs ++ ys)).2.conversation.record := by
  rw [run_append]
  exact ⟨List.prefix_append _ _, record_prefix_runFrom _ ys⟩

theorem run_append_of_ended {c : Conversation} {xs : List InputEvent} {ending : Ending}
    (h : (run palette c xs).2.ending = some ending) (ys : List InputEvent) :
    run palette c (xs ++ ys) = run palette c xs := by
  simp only [run_append, andThen, runFrom_of_ended h, List.append_nil]

theorem run_append_interrupted {c : Conversation} {xs : List InputEvent}
    (h : (run palette c xs).2.ending = none) :
    run palette c (xs ++ [.interrupted]) =
      ((run palette c xs).1 ++ goodbyeOnInterrupt,
        { conversation := (run palette c xs).2.conversation, ending := some .interrupted }) := by
  rw [run_append, andThen, runFrom_singleton, step.eq_def, h]

/-- Behind lines, the messages that they finish have been answered. -/
theorem run_lines (c : Conversation) (lines : List Text) :
    run palette c (lines.map .line) =
      (greeting ++ prompt ++ (answerAll palette { conversation := c } (finished lines)).1,
        (answerAll palette { conversation := c } (finished lines)).2.await (unfinished lines)) := by
  rw [run, runFrom_lines, reading]
  simp only [andThen, List.append_nil]

/-- What a conversation over lines comes to when more may be read: the messages that the lines finish
are answered, and the next one is asked for unless one of them leaves. -/
theorem exists_run_lines (palette : Palette) (c : Conversation) {lines : List Text}
    (h : ∀ message ∈ answered (finished lines),
      ∃ answer kind, answerTo c.settings (content message) = .ok (answer, kind)) :
    ∃ exchanges : List Exchange,
      exchanges.map Exchange.message = answered (finished lines) ∧
      (∀ e ∈ exchanges, e.Holds c.settings) ∧
      run palette c (lines.map .line) =
        (greeting ++ exchanges.flatMap (Exchange.shown palette) ++
            (if (finished lines).any leaves then [] else prompt),
          await { conversation := { c with record := c.record ++ exchanges.map Exchange.entry }
                  ending := if (finished lines).any leaves then some .left else none }
            (unfinished lines)) := by
  obtain ⟨exchanges, hmap, hholds, hshown, hloop⟩ :=
    exists_exchanges palette c (fun _ => isMessage_of_mem_finished) h
  refine ⟨exchanges, hmap, hholds, ?_⟩
  rw [run_lines, List.append_assoc, hshown, hloop, List.append_assoc]

/-- Behind completed lines that leave a conversation open, the messages that the lines finish are
answered, and the next one is asked for. -/
theorem run_completed_of_open (palette : Palette) (c : Conversation) (read : List UInt8)
    (h : (run palette c (completed read)).2.ending = none) :
    ∃ (lines : List Text) (exchanges : List Exchange),
      completed read = lines.map .line ∧
      exchanges.map Exchange.message = finished lines ∧
      (∀ e ∈ exchanges, e.Holds c.settings) ∧
      (run palette c (completed read)).1 =
        greeting ++ exchanges.flatMap (Exchange.shown palette) ++ prompt ∧
      (run palette c (completed read)).2.conversation =
        { c with record := c.record ++ exchanges.map Exchange.entry } := by
  obtain ⟨lines, hlines⟩ := exists_lines_of_open palette { conversation := c } h
  have hrun : run palette c (completed read) = run palette c (lines.map .line) :=
    congrArg (run palette c) hlines
  have hopen := h
  rw [hrun, run_lines, await_ending] at hopen
  obtain ⟨hstays, hanswers⟩ := answered_of_open (fun _ => isMessage_of_mem_finished) hopen
  have hall : answered (finished lines) = finished lines := answered_of_any_eq_false hstays
  obtain ⟨exchanges, hmap, hholds, hread⟩ := exists_run_lines palette c (hall.symm ▸ hanswers)
  rw [hstays, if_neg Bool.false_ne_true] at hread
  exact ⟨lines, exchanges, hlines, hmap.trans hall, hholds, by rw [hrun, hread],
    by rw [hrun, hread, await_conversation]⟩

/-- **An interrupt changes nothing that came before it.**  A conversation that has ended before the
interrupt comes to the same, however the input goes on.  One that is interrupted has answered the
messages that the completed lines finish, and no other; its record and what it has shown are the
beginnings of what they become when the input goes on.  Without the interrupt, the end of the input
adds at most one message. -/
theorem run_interrupted (palette : Palette) (c : Conversation) (read unread : List UInt8) :
    ((run palette c (ofInput read true)).2.ending ≠ some .interrupted →
      run palette c (ofInput (read ++ unread) false) = run palette c (ofInput read true)) ∧
    ((run palette c (ofInput read true)).2.ending = some .interrupted →
      ∃ (lines : List Text) (exchanges : List Exchange),
        completed read = lines.map .line ∧
        exchanges.map Exchange.message = finished lines ∧
        (∀ e ∈ exchanges, e.Holds c.settings) ∧
        run palette c (ofInput read true) =
          (greeting ++ exchanges.flatMap (Exchange.shown palette) ++ prompt ++ goodbyeOnInterrupt,
            { conversation := { c with record := c.record ++ exchanges.map Exchange.entry }
              ending := some .interrupted }) ∧
        c.record ++ exchanges.map Exchange.entry <+:
          (run palette c (ofInput (read ++ unread) false)).2.conversation.record ∧
        greeting ++ exchanges.flatMap (Exchange.shown palette) ++ prompt <+:
          (run palette c (ofInput (read ++ unread) false)).1) ∧
    (run palette c (ofInput read false)).2.conversation.record.length ≤
      (run palette c (ofInput read true)).2.conversation.record.length + 1 := by
  obtain ⟨later, hlater⟩ := exists_ofInput_append read unread
  obtain ⟨final, hfinal, hended⟩ := exists_ofInput_eq read
  have hbegins : (run palette c (completed read)).2.ending ≠ some .interrupted :=
    runFrom_ending_ne_interrupted (s := { conversation := c }) (by simp) _
  -- all three conversations begin with the completed lines, and differ only if still open there
  rw [hlater, hended, ofInput_endless]
  cases hending : (run palette c (completed read)).2.ending with
  | some ending =>
    rw [run_append_of_ended hending, run_append_of_ended hending, run_append_of_ended hending]
    exact ⟨fun _ => rfl, fun h => absurd h hbegins, Nat.le_add_right _ _⟩
  | none =>
    obtain ⟨lines, exchanges, hlines, hmap, hholds, hshown, hconversation⟩ :=
      run_completed_of_open palette c read hending
    obtain ⟨houtput, hrecord⟩ := run_prefix_append palette c (completed read) later
    rw [run_append_interrupted hending]
    refine ⟨fun h => absurd rfl h, fun _ => ?_, ?_⟩
    · refine ⟨lines, exchanges, hlines, hmap, hholds, ?_, ?_, ?_⟩
      · rw [hshown, hconversation]
      · rwa [hconversation] at hrecord
      · rwa [hshown] at houtput
    · rw [run_append]
      exact length_runFrom_final _ hfinal

/-- An interrupt within the second message leaves the first one on record. -/
theorem run_interrupted_within_message :
    ∃ exchanges : List Exchange,
      exchanges.map Exchange.entry = [⟨"hi".toList, .other⟩] ∧
      run .plain { settings := {} } (ofInput (Utf8.encode "hi\n\ndef f():\n  qu".toList) true) =
        (greeting ++ exchanges.flatMap (Exchange.shown .plain) ++ prompt ++ goodbyeOnInterrupt,
          { conversation := { settings := {}, record := exchanges.map Exchange.entry }
            ending := some .interrupted }) ∧
      exchanges.map Exchange.entry <+:
        (run .plain { settings := {} } (ofInput (Utf8.encode "hi\n\ndef f():\n  qu".toList ++
          Utf8.encode "it\n\nhelp\n".toList) false)).2.conversation.record := by
  obtain ⟨lines, exchanges, -, -, -, hrun, hrecord, -⟩ :=
    (run_interrupted .plain { settings := {} } (Utf8.encode "hi\n\ndef f():\n  qu".toList)
      (Utf8.encode "it\n\nhelp\n".toList)).2.1 (by decide +kernel)
  have hentries : (run .plain { settings := {} }
      (ofInput (Utf8.encode "hi\n\ndef f():\n  qu".toList) true)).2.conversation.record =
        [⟨"hi".toList, .other⟩] := by
    decide +kernel
  rw [hrun] at hentries
  exact ⟨exchanges, hentries, hrun, hrecord⟩

end Loop
end CodeGloss
