import CodeGloss.Conversation.Basic
import CodeGloss.Proofs.Text.Pieces
import CodeGloss.Proofs.Text.Trim

/-! # Messages as runs of lines

What a user types is a list of lines, and `messages` says how lines make up messages, all lines
being known.  A conversation sees them one by one: `finished` are the messages that lines leave no
doubt about, and `unfinished` are the lines that wait for more.  With the end of the input these
become a message too (`messages_eq`).

The command that a message is can be read off its lines or off its content.  Both ways agree
(`chatCommand?_content`): the content of several lines has a line feed, and no command has one.
-/
namespace CodeGloss
namespace Conversation

open Text

/-- Whether a line has a character that is not blank. -/
def isFilled (line : Text) : Bool :=
  !allBlank line

/-- **The messages that lines make up.**  Blank lines stand between messages.  A message that begins
with a command is that line alone; any other message is a run of filled lines that is as long as it
can be, whatever stands on its later lines. -/
def messages : List Text → List (List Text)
  | [] => []
  | line :: rest =>
    if allBlank line then messages rest
    else if (chatCommand? line).isSome then [line] :: messages rest
    else (line :: rest.takeWhile isFilled) :: messages (rest.dropWhile isFilled)
termination_by lines => lines.length
decreasing_by
  · exact Nat.lt_add_one _
  · exact Nat.lt_add_one _
  · exact Nat.lt_add_one_of_le (List.length_dropWhile_le isFilled rest)

/-- What a message says: its lines, trimmed as a whole. -/
def content (message : List Text) : Text :=
  trim (ofPieces message)

/-- The command that a message is, if it is one line. -/
def loneCommand? : List Text → Option ChatCommand
  | [line] => chatCommand? line
  | _ => none

/-- Whether a message is the command to leave. -/
def leaves (message : List Text) : Bool :=
  loneCommand? message = some .leave

/-- The messages up to the first one that leaves. -/
def answered : List (List Text) → List (List Text)
  | [] => []
  | message :: later => if leaves message then [message] else message :: answered later

/-! ## The lines of messages -/

theorem takeWhile_isFilled {rest : List Text} {line : Text} (h : line ∈ rest.takeWhile isFilled) :
    allBlank line = false := by
  simpa [isFilled] using List.mem_takeWhile_imp h

/-- What the lines of a message are like. -/
structure IsMessage (message : List Text) : Prop where
  /-- There is a line. -/
  nonempty : message ≠ []
  /-- No line is blank. -/
  filled : ∀ line ∈ message, allBlank line = false

theorem isMessage_of_mem_messages {lines message : List Text} (h : message ∈ messages lines) :
    IsMessage message := by
  fun_induction messages lines with
  | case1 => exact absurd h List.not_mem_nil
  | case2 line rest hblank ih => exact ih h
  | case3 line rest hblank hcommand ih =>
    rcases List.mem_cons.mp h with rfl | h
    · refine ⟨List.cons_ne_nil _ _, ?_⟩
      simpa using hblank
    · exact ih h
  | case4 line rest hblank hcommand ih =>
    rcases List.mem_cons.mp h with rfl | h
    · refine ⟨List.cons_ne_nil _ _, fun l hl => ?_⟩
      rcases List.mem_cons.mp hl with rfl | hl
      · simpa using hblank
      · exact takeWhile_isFilled hl
    · exact ih h

/-- **No filled line is lost or repeated.** -/
theorem flatten_messages (lines : List Text) :
    (messages lines).flatten = lines.filter isFilled := by
  fun_induction messages lines with
  | case1 => rfl
  | case2 line rest hblank ih => rw [ih, List.filter_cons_of_neg (by simp [isFilled, hblank])]
  | case3 line rest hblank hcommand ih =>
    rw [List.flatten_cons, ih, List.filter_cons_of_pos (by simp [isFilled, hblank])]
    rfl
  | case4 line rest hblank hcommand ih =>
    have hrest : rest.filter isFilled =
        rest.takeWhile isFilled ++ (rest.dropWhile isFilled).filter isFilled := by
      conv_lhs => rw [← List.takeWhile_append_dropWhile (p := isFilled) (l := rest)]
      rw [List.filter_append, List.filter_eq_self.mpr fun _ => List.mem_takeWhile_imp]
    rw [List.flatten_cons, ih, List.filter_cons_of_pos (by simp [isFilled, hblank]), hrest,
      List.cons_append]

/-! ## Finished messages -/

/-- The messages that are finished when lines have been read and more may come: a command on a line
of its own, and a run of filled lines with a blank line behind it. -/
def finished : List Text → List (List Text)
  | [] => []
  | line :: rest =>
    if allBlank line then finished rest
    else if (chatCommand? line).isSome then [line] :: finished rest
    else if rest.all isFilled then []
    else (line :: rest.takeWhile isFilled) :: finished (rest.dropWhile isFilled)
termination_by lines => lines.length
decreasing_by
  · exact Nat.lt_add_one _
  · exact Nat.lt_add_one _
  · exact Nat.lt_add_one_of_le (List.length_dropWhile_le isFilled rest)

/-- The lines of the message that is not finished. -/
def unfinished : List Text → List Text
  | [] => []
  | line :: rest =>
    if allBlank line then unfinished rest
    else if (chatCommand? line).isSome then unfinished rest
    else if rest.all isFilled then line :: rest
    else unfinished (rest.dropWhile isFilled)
termination_by lines => lines.length
decreasing_by
  · exact Nat.lt_add_one _
  · exact Nat.lt_add_one _
  · exact Nat.lt_add_one_of_le (List.length_dropWhile_le isFilled rest)

/-- With the end of the input the unfinished lines become a message. -/
theorem messages_eq (lines : List Text) :
    messages lines =
      finished lines ++ if unfinished lines = [] then [] else [unfinished lines] := by
  fun_induction messages lines with
  | case1 => rw [finished, unfinished]; rfl
  | case2 line rest hblank ih => rw [finished, unfinished, if_pos hblank, if_pos hblank, ih]
  | case3 line rest hblank hcommand ih =>
    rw [finished, unfinished, if_neg hblank, if_neg hblank, if_pos hcommand, if_pos hcommand, ih]
    rfl
  | case4 line rest hblank hcommand ih =>
    rw [finished, unfinished, if_neg hblank, if_neg hblank, if_neg hcommand, if_neg hcommand]
    -- a message that goes on to the last line is the unfinished one
    by_cases hrest : rest.all isFilled = true
    · have hall : ∀ l ∈ rest, isFilled l = true := List.all_eq_true.mp hrest
      rw [if_pos hrest, if_pos hrest, List.takeWhile_eq_self_iff.mpr hall,
        List.dropWhile_eq_nil_iff.mpr hall, messages, if_neg (List.cons_ne_nil line rest)]
      rfl
    · rw [if_neg hrest, if_neg hrest, ih]
      rfl

theorem isMessage_of_mem_finished {lines message : List Text} (h : message ∈ finished lines) :
    IsMessage message := by
  have hmem : message ∈ messages lines := by
    rw [messages_eq]
    exact List.mem_append_left _ h
  exact isMessage_of_mem_messages hmem

/-- A message that leaves is finished as soon as it is read. -/
theorem leaves_unfinished (lines : List Text) : leaves (unfinished lines) = false := by
  fun_induction unfinished lines with
  | case1 => rfl
  | case2 | case3 | case5 => assumption
  | case4 line rest hblank hcommand hrest =>
    cases rest with
    | nil =>
      rw [Option.isSome_iff_ne_none, not_not] at hcommand
      simp [leaves, loneCommand?, hcommand]
    | cons second later => rfl

theorem any_leaves_messages (lines : List Text) :
    (messages lines).any leaves = (finished lines).any leaves := by
  rw [messages_eq, List.any_append]
  split <;> simp [leaves_unfinished]

/-! ## The command that a message is -/

theorem lower_lineFeed : lower '\n' = ['\n'] := by
  decide

theorem lineFeed_mem_lowercase {t : Text} (h : '\n' ∈ t) : '\n' ∈ lowercase t :=
  List.mem_flatMap.mpr ⟨'\n', h, by rw [lower_lineFeed]; exact List.mem_singleton_self _⟩

theorem chatCommand?_eq_none_of_lineFeed_mem {t : Text} (h : '\n' ∈ trim t) :
    chatCommand? t = none := by
  have hmem : '\n' ∈ lowercase (trim t) := lineFeed_mem_lowercase h
  have hne : ∀ word : Text, '\n' ∉ word → lowercase (trim t) ≠ word :=
    fun word hword heq => hword (heq ▸ hmem)
  have hhelp : lowercase (trim t) ≠ "help".toList := hne _ (by decide)
  have hquit : lowercase (trim t) ≠ "quit".toList := hne _ (by decide)
  have hexit : lowercase (trim t) ≠ "exit".toList := hne _ (by decide)
  simp only [chatCommand?, hhelp, hquit, hexit, decide_false, Bool.or_self, Bool.false_eq_true,
    if_false]

theorem allBlank_ofPieces {message : List Text} (hne : message ≠ [])
    (h : ∀ line ∈ message, allBlank line = false) : allBlank (ofPieces message) = false := by
  obtain ⟨line, later, rfl⟩ := List.exists_cons_of_ne_nil hne
  have hline : allBlank line = false := h line List.mem_cons_self
  by_cases hlater : later = []
  · rw [hlater, ofPieces_singleton, hline]
  · rw [ofPieces_cons line hlater, allBlank_append, hline, Bool.false_and]

/-- **The content of a message is a command exactly if the message is a command on a line of its
own.** -/
theorem chatCommand?_content {message : List Text} (hmessage : IsMessage message) :
    chatCommand? (content message) = loneCommand? message := by
  obtain ⟨hne, h⟩ := hmessage
  obtain ⟨line, later, rfl⟩ := List.exists_cons_of_ne_nil hne
  cases later with
  | nil => rw [content, ofPieces_singleton, chatCommand?, trim_trim]; rfl
  | cons second later =>
    have hline : allBlank line = false := h line List.mem_cons_self
    have hrest : allBlank (ofPieces (second :: later)) = false :=
      allBlank_ofPieces (List.cons_ne_nil _ _) fun l hl => h l (List.mem_cons_of_mem line hl)
    refine chatCommand?_eq_none_of_lineFeed_mem ?_
    rw [content, trim_trim, ofPieces_cons line (List.cons_ne_nil _ _),
      show line ++ '\n' :: ofPieces (second :: later) =
        line ++ (['\n'] ++ ofPieces (second :: later)) from rfl,
      trim_append_append ['\n'] hline hrest]
    simp

/-! ## Messages that are answered -/

theorem mem_of_mem_answered {message : List Text} {messages : List (List Text)}
    (h : message ∈ answered messages) : message ∈ messages := by
  induction messages with
  | nil => exact h
  | cons first later ih =>
    rw [answered] at h
    split at h
    · rw [List.mem_singleton.mp h]
      exact List.mem_cons_self
    · exact List.mem_cons.mpr ((List.mem_cons.mp h).imp_right ih)

theorem answered_of_any_eq_false {messages : List (List Text)}
    (h : messages.any leaves = false) : answered messages = messages := by
  induction messages with
  | nil => rfl
  | cons message later ih =>
    rw [List.any_cons, Bool.or_eq_false_iff] at h
    rw [answered, if_neg (by simp [h.1]), ih h.2]

/-- What stands behind a message that leaves is not answered. -/
theorem answered_append_of_any_eq_true {xs : List (List Text)} (h : xs.any leaves = true)
    (ys : List (List Text)) : answered (xs ++ ys) = answered xs := by
  induction xs with
  | nil => cases h
  | cons message later ih =>
    rw [List.cons_append, answered, answered]
    split
    next => rfl
    next hstays =>
      rw [List.any_cons, Bool.or_eq_true_iff, or_iff_right hstays] at h
      rw [ih h]

end Conversation
end CodeGloss
