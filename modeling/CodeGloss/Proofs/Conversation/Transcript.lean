import CodeGloss.Proofs.Conversation.Input
import CodeGloss.Proofs.Conversation.Steps

/-! # What a conversation over a text comes to

A conversation over a text that ends answers the messages of its lines in order, up to and including
the first one that leaves (`run_answers_messages`): each message is given one answer, recorded once
and shown once behind a prompt, and it is recorded as a command exactly if it is one on a line of
its own.  If no message leaves, every filled line of the text is a line of one of the messages.

The only thing that can go wrong on the way is a score that does not fit in 64 bits; it is enough
that none does among the messages that are answered.
-/
namespace CodeGloss

open Text Conversation

/-- A message, the answer given to it, and how it was understood. -/
structure Exchange where
  /-- The lines of the message. -/
  message : List Text
  /-- The answer. -/
  answer : Answer
  /-- How the message was understood. -/
  kind : MessageKind

namespace Exchange

/-- Whether the answer is the one that the settings lead to. -/
def Holds (settings : Settings) (e : Exchange) : Prop :=
  answerTo settings (content e.message) = .ok (e.answer, e.kind)

/-- What is recorded. -/
def entry (e : Exchange) : Entry :=
  ⟨content e.message, e.kind⟩

/-- What is shown: the prompt for the message, and the answer. -/
def shown (palette : Palette) (e : Exchange) : Text :=
  Loop.prompt ++ e.answer.render palette ++ ['\n']

end Exchange

/-! ## Answers to messages -/

namespace Conversation

variable {settings : Settings}

/-- **A message is recorded as a command, and leaves, exactly if it does so by its lines.** -/
theorem answerTo_content {message : List Text} (hmessage : IsMessage message) {answer : Answer}
    {kind : MessageKind}
    (h : answerTo settings (content message) = .ok (answer, kind)) :
    answer.isLast = leaves message ∧ (kind = .command ↔ (loneCommand? message).isSome) := by
  rw [answerTo, chatCommand?_content hmessage] at h
  rw [leaves]
  cases hcommand : loneCommand? message with
  | some command =>
    cases command with
    | leave =>
      simp only [hcommand, Except.ok.injEq, Prod.mk.injEq] at h
      obtain ⟨rfl, rfl⟩ := h
      simp [Answer.isLast]
    | help =>
      simp only [hcommand, Except.ok.injEq, Prod.mk.injEq] at h
      obtain ⟨rfl, rfl⟩ := h
      simp [Answer.isLast]
  | none =>
    simp only [hcommand] at h
    split at h
    · cases hexplained : Explanation.ofCode settings (content message) with
      | error overflow => rw [hexplained] at h; cases h
      | ok e =>
        rw [hexplained] at h
        obtain ⟨rfl, rfl⟩ := Prod.mk.inj (Except.ok.inj h)
        simp [Answer.isLast]
    · obtain ⟨rfl, rfl⟩ := Prod.mk.inj (Except.ok.inj h)
      simp [Answer.isLast]

/-- A text is answered if its score fits, and only a snippet has a score. -/
theorem exists_answerTo {text : Text}
    (h : resemblesCode text = true → ∃ m, Measures.ofCode settings.scoring text = .ok m) :
    ∃ answer kind, answerTo settings text = .ok (answer, kind) := by
  rw [answerTo]
  split
  · exact ⟨_, _, rfl⟩
  · exact ⟨_, _, rfl⟩
  · split
    next hcode =>
      obtain ⟨m, hm⟩ := h hcode
      rw [Explanation.ofCode, hm]
      exact ⟨_, _, rfl⟩
    next => exact ⟨_, _, rfl⟩

end Conversation

namespace Loop

variable {palette : Palette}

theorem answerAll_of_open {c : Conversation} {messages : List (List Text)}
    (h : (answerAll palette { conversation := c } messages).2.ending = none) :
    (answerAll palette { conversation := c } messages).2 =
      { conversation := (answerAll palette { conversation := c } messages).2.conversation } := by
  induction messages generalizing c with
  | nil => rfl
  | cons message later ih =>
    rw [answerAll_cons, andThen] at h ⊢
    cases hending : (answerLines palette { conversation := c } message).2.ending with
    | some ending =>
      simp only [answerAll_of_ended hending] at h
      rw [hending] at h
      cases h
    | none =>
      rw [answerLines_of_open hending] at h ⊢
      exact ih h

/-- **Answering messages**: every message up to the first one that leaves is given its answer. -/
theorem exists_exchanges (palette : Palette) (c : Conversation) {messages : List (List Text)}
    (hmessages : ∀ message ∈ messages, IsMessage message)
    (h : ∀ message ∈ answered messages,
      ∃ answer kind, answerTo c.settings (content message) = .ok (answer, kind)) :
    ∃ exchanges : List Exchange,
      exchanges.map Exchange.message = answered messages ∧
      (∀ e ∈ exchanges, e.Holds c.settings) ∧
      prompt ++ (answerAll palette { conversation := c } messages).1 =
        exchanges.flatMap (Exchange.shown palette) ++
          (if messages.any leaves then [] else prompt) ∧
      (answerAll palette { conversation := c } messages).2 =
        { conversation := { c with record := c.record ++ exchanges.map Exchange.entry }
          ending := if messages.any leaves then some .left else none } := by
  -- the prompt is taken to the message behind it, so that each message has one in front
  induction messages generalizing c with
  | nil => exact ⟨[], rfl, List.forall_mem_nil _, by simp [answerAll], by simp [answerAll]⟩
  | cons message later ih =>
    obtain ⟨hmessage, hlater⟩ := List.forall_mem_cons.mp hmessages
    rw [answered] at h ⊢
    cases hleaves : leaves message with
    | true =>
      rw [hleaves, if_pos rfl] at h
      obtain ⟨answer, kind, hanswer⟩ := h message (List.mem_singleton_self message)
      have hlast : answer.isLast = true := hleaves ▸ (answerTo_content hmessage hanswer).1
      refine ⟨[⟨message, answer, kind⟩], by simp, List.forall_mem_singleton.mpr hanswer, ?_, ?_⟩
      all_goals
        rw [answerAll_cons, answerLines_of_ok hanswer, hlast, if_pos rfl, andThen,
          answerAll_of_ended rfl]
        simp [Exchange.shown, Exchange.entry, hleaves]
    | false =>
      rw [hleaves, if_neg Bool.false_ne_true, List.forall_mem_cons] at h
      obtain ⟨⟨answer, kind, hanswer⟩, hothers⟩ := h
      have hlast : answer.isLast = false := hleaves ▸ (answerTo_content hmessage hanswer).1
      have hstep : answerLines palette { conversation := c } message =
          (answer.render palette ++ ['\n'] ++ prompt,
            { conversation := { c with record := c.record ++ [⟨content message, kind⟩] } }) := by
        rw [answerLines_of_ok hanswer, hlast]
        rfl
      obtain ⟨exchanges, hmap, hholds, hshown, hloop⟩ :=
        ih { c with record := c.record ++ [⟨content message, kind⟩] } hlater hothers
      refine ⟨⟨message, answer, kind⟩ :: exchanges, by simp [hmap],
        List.forall_mem_cons.mpr ⟨hanswer, hholds⟩, ?_, ?_⟩
      · rw [answerAll_cons, hstep, andThen]
        simpa [Exchange.shown, hleaves] using hshown
      · rw [answerAll_cons, hstep, andThen]
        simp [Exchange.entry, hleaves, hloop]

/-! ## The end of the input -/

/-- What the end of the input does behind the last message. -/
def atEnd (s : Loop) : Text × Loop :=
  match s.ending with
  | some _ => ([], s)
  | none => (goodbyeAtEnd, { s with ending := some .inputEnded })

theorem atEnd_conversation (s : Loop) : (atEnd s).2.conversation = s.conversation := by
  unfold atEnd
  split <;> rfl

theorem atEnd_pending (s : Loop) : (atEnd s).2.pending = s.pending := by
  unfold atEnd
  split <;> rfl

theorem stepEnd_eq (s : Loop) :
    stepEnd palette s =
      andThen (if s.pending = [] then ([], s) else answerLines palette s s.pending) atEnd := by
  simp only [stepEnd, List.isEmpty_iff, andThen, atEnd]
  split <;> simp [*]

theorem step_ended (c : Conversation) (pending : List Text) :
    step palette { conversation := c, pending } .ended =
      andThen (answerAll palette { conversation := c } (if pending = [] then [] else [pending]))
        atEnd := by
  show stepEnd palette { conversation := c, pending } = _
  rw [stepEnd_eq]
  by_cases hpending : pending = []
  · subst hpending
    rfl
  · rw [if_neg hpending, if_neg hpending, answerAll_cons, andThen_assoc]
    rfl

/-- **Reading lines up to the end of the input is answering all messages of the lines.** -/
theorem runFrom_lines_ended (c : Conversation) (lines : List Text) :
    runFrom palette { conversation := c } (lines.map .line ++ [.ended]) =
      andThen (answerAll palette { conversation := c } (messages lines)) atEnd := by
  rw [runFrom_append, runFrom_lines, reading, messages_eq, answerAll_append, andThen_assoc,
    andThen_assoc]
  refine andThen_congr ?_
  rw [nil_andThen]
  cases hending : (answerAll palette { conversation := c } (finished lines)).2.ending with
  | some ending =>
    rw [await, hending, answerAll_of_ended hending, nil_andThen, atEnd, hending]
    exact runFrom_of_ended hending _
  | none =>
    -- the end of the input answers the unfinished message, as `messages_eq` has it last
    rw [answerAll_of_open hending, ← step_ended]
    exact runFrom_singleton _ _

/-! ## Conversations over texts -/

theorem run_encode (c : Conversation) (t : Text) :
    run palette c (InputEvent.ofInput (Utf8.encode t) false) =
      andThen
        (greeting ++ (prompt ++ (answerAll palette { conversation := c } (messages (lines t))).1),
          (answerAll palette { conversation := c } (messages (lines t))).2)
        atEnd := by
  rw [run, InputEvent.ofInput_encode, runFrom_lines_ended]
  simp only [andThen, List.append_assoc]

/-- **What a conversation over a text comes to.**  The messages of the text up to the first one that
leaves are answered in order, each of them recorded and shown once.  If none leaves, the messages
have all lines of the text that are not blank.  A score that does not fit would end the
conversation, so those of the answered messages have to. -/
theorem run_answers_messages (palette : Palette) (settings : Settings) (t : Text)
    (h : ∀ message ∈ answered (messages (lines t)), resemblesCode (content message) = true →
      ∃ m, Measures.ofCode settings.scoring (content message) = .ok m) :
    ∃ exchanges : List Exchange,
      exchanges.map Exchange.message = answered (messages (lines t)) ∧
      (∀ e ∈ exchanges, e.Holds settings ∧
        (e.kind = .command ↔ (loneCommand? e.message).isSome)) ∧
      run palette { settings } (InputEvent.ofInput (Utf8.encode t) false) =
        (if (messages (lines t)).any leaves then
          (greeting ++ exchanges.flatMap (Exchange.shown palette),
            { conversation := { settings, record := exchanges.map Exchange.entry }
              ending := some .left })
        else
          (greeting ++ exchanges.flatMap (Exchange.shown palette) ++ prompt ++ goodbyeAtEnd,
            { conversation := { settings, record := exchanges.map Exchange.entry }
              ending := some .inputEnded })) ∧
      ((messages (lines t)).any leaves = false →
        exchanges.flatMap Exchange.message = (lines t).filter isFilled) := by
  have hmessages : ∀ message ∈ messages (lines t), IsMessage message :=
    fun _ => isMessage_of_mem_messages
  obtain ⟨exchanges, hmap, hholds, hshown, hloop⟩ :=
    exists_exchanges palette { settings } hmessages
      fun message hmessage => exists_answerTo (h message hmessage)
  have hkind : ∀ e ∈ exchanges, e.kind = .command ↔ (loneCommand? e.message).isSome := by
    intro e he
    have hmem : e.message ∈ messages (lines t) :=
      mem_of_mem_answered (hmap ▸ List.mem_map_of_mem he)
    exact (answerTo_content (hmessages _ hmem) (hholds e he)).2
  have hflat : (messages (lines t)).any leaves = false →
      exchanges.flatMap Exchange.message = (lines t).filter isFilled := by
    intro hstays
    rw [List.flatMap_def, hmap, answered_of_any_eq_false hstays, flatten_messages]
  refine ⟨exchanges, hmap, fun e he => ⟨hholds e he, hkind e he⟩, ?_, hflat⟩
  rw [run_encode, hshown, hloop]
  cases (messages (lines t)).any leaves <;> simp [andThen, atEnd]

/-- A text with a command, a snippet that has a command on one of its lines, a command to leave, and a
line behind it. -/
def sampleChat : Text :=
  "\nhelp\r\ndef f():\n  quit\n \nQUIT \nmore".toList

theorem run_answers_messages_sampleChat :
    ∃ exchanges : List Exchange,
      exchanges.map Exchange.message =
        [["help".toList], ["def f():".toList, "  quit".toList], ["QUIT ".toList]] ∧
      (∀ e ∈ exchanges, e.Holds {}) ∧
      run .plain { settings := {} } (InputEvent.ofInput (Utf8.encode sampleChat) false) =
        (greeting ++ exchanges.flatMap (Exchange.shown .plain),
          { conversation := { settings := {}, record := exchanges.map Exchange.entry }
            ending := some .left }) := by
  have hok : ∀ message ∈ answered (messages (lines sampleChat)),
      (Measures.ofCode {} (content message)).isOk := by
    decide +kernel
  have hfits : ∀ message ∈ answered (messages (lines sampleChat)),
      resemblesCode (content message) = true → ∃ m, Measures.ofCode {} (content message) = .ok m := by
    intro message hmessage _
    have hmessage := hok message hmessage
    cases hm : Measures.ofCode {} (content message) with
    | ok m => exact ⟨m, rfl⟩
    | error overflow => rw [hm] at hmessage; cases hmessage
  obtain ⟨exchanges, hmap, hholds, hrun, -⟩ := run_answers_messages .plain {} sampleChat hfits
  refine ⟨exchanges, ?_, fun e he => (hholds e he).1, ?_⟩
  · rw [hmap]
    decide +kernel
  · rw [hrun, if_pos (by decide +kernel)]

end Loop
end CodeGloss
