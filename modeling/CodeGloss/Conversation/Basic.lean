import CodeGloss.Explanation.Rendering

/-! # Conversations

A message in a conversation is a command, a snippet, or neither.  A command is answered with a fixed
text, a snippet with its explanation, anything else with a hint.  The conversation keeps a record of
every message that was answered and of how it was understood; a message whose explanation fails is
not recorded.
-/

namespace CodeGloss

open Text

/-- The words that a message must have one of to be taken for a snippet. -/
def codeWords : List Text :=
  ["def ".toList, "class ".toList, "function ".toList]

/-- Whether a text is taken for a snippet. -/
def resemblesCode (t : Text) : Bool :=
  codeWords.any fun word => occurs word t

/-- The commands of a conversation. -/
inductive ChatCommand
  | help
  | leave
  deriving DecidableEq, Repr

/-- The command that a text is, whatever the case of its letters and the blanks around it. -/
def chatCommand? (t : Text) : Option ChatCommand :=
  let word := lowercase (trim t)
  if word = "help".toList then some .help
  else if word = "quit".toList || word = "exit".toList then some .leave
  else none

/-- The answers to a message. -/
inductive Answer
  /-- The answer to the command that ends the conversation. -/
  | farewell
  /-- The answer to the command for help. -/
  | usage
  /-- The explanation of a snippet. -/
  | explanation (e : Explanation)
  /-- The hint that the message is not a snippet. -/
  | hint
  deriving DecidableEq, Repr

namespace Answer

/-- The fixed text of an answer; an explanation has none. -/
def fixedText : Answer → Text
  | farewell => "👋 Exiting. Catch you later!".toList
  | usage =>
    "Paste some code and I'll add comments/explanation.\n".toList ++
    "Finish a snippet with an empty line.\n".toList ++
    "Commands: help, quit, exit".toList
  | hint => "Hmm, that didn't look like code to me. Try pasting a function or class.".toList
  | explanation _ => []

/-- Whether the conversation ends with the answer. -/
def isLast : Answer → Bool
  | farewell => true
  | _ => false

/-- The answer as it is shown. -/
def render (palette : Palette) : Answer → Text
  | explanation e => e.render palette
  | answer => answer.fixedText

end Answer

/-- How a message was understood. -/
inductive MessageKind
  | command
  | snippet
  | other
  deriving DecidableEq, Repr

/-- A message that was answered. -/
structure Entry where
  /-- The message, trimmed. -/
  message : Text
  /-- How it was understood. -/
  kind : MessageKind
  deriving DecidableEq, Repr

/-- A conversation: the settings in force and the record so far. -/
structure Conversation where
  /-- The settings that explanations are made with. -/
  settings : Settings
  /-- The messages answered so far, in order. -/
  record : List Entry := []
  deriving DecidableEq, Repr

namespace Conversation

/-- The answer to a trimmed message, and how the message was understood. -/
def answerTo (settings : Settings) (message : Text) : Except Overflow (Answer × MessageKind) :=
  match chatCommand? message with
  | some .leave => .ok (.farewell, .command)
  | some .help => .ok (.usage, .command)
  | none =>
    if resemblesCode message then
      (Explanation.ofCode settings message).map fun e => (.explanation e, .snippet)
    else .ok (.hint, .other)

/-- Answers a message and records it. -/
def take (c : Conversation) (input : Text) : Except Overflow (Answer × Conversation) := do
  let message := trim input
  let (answer, kind) ← answerTo c.settings message
  return (answer, { c with record := c.record ++ [⟨message, kind⟩] })

end Conversation
end CodeGloss
