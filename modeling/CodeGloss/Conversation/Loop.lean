import CodeGloss.Conversation.Basic
import CodeGloss.Text.Utf8

/-! # The loop of a conversation

A conversation runs over what is read from the user: lines, a line that cannot be read, the end of
the input, or an interrupt.  A command on a line of its own is a message; any other message is a run
of lines that are not blank, and ends with a blank line or with the input.  An interrupt and an
unreadable line drop the message that is not finished.

`Loop.step` takes in one event and says what is written; nothing is read or written here.  A loop
that has ended ignores further events.
-/

namespace CodeGloss

open Text

/-- What is read from the user. -/
inductive InputEvent
  /-- A line, without its end. -/
  | line (content : Text)
  /-- A line that is not UTF-8. -/
  | unreadable (fault : Utf8.Fault)
  /-- The end of the input. -/
  | ended
  /-- An interrupt by the user. -/
  | interrupted
  deriving DecidableEq, Repr

namespace InputEvent

/-- The octets of a line without its end: a line feed, and a carriage return before it.  A carriage
return without a line feed behind it ends no line. -/
def dropLineEnd (octets : List UInt8) : List UInt8 :=
  if octets.getLast? = some 10 then
    let content := octets.dropLast
    if content.getLast? = some 13 then content.dropLast else content
  else octets

/-- The event of reading a line, given with its end.  The end is taken off before the octets are read
as UTF-8, so a character that the end cuts off is an incomplete one. -/
def ofOctets (octets : List UInt8) : InputEvent :=
  match Utf8.decode (dropLineEnd octets) with
  | .ok t => line t
  | .error fault => unreadable fault

/-- The lines of the input with their ends; the last one is what stands behind the last line
feed. -/
def octetLines : List UInt8 → List (List UInt8)
  | [] => [[]]
  | b :: rest =>
    if b = 10 then [b] :: octetLines rest
    else match octetLines rest with
      | [] => [[b]]
      | first :: later => (b :: first) :: later

/-- The events of reading an input that ends, or of reading one that does not and is interrupted
when all of it has been read; the interrupt drops a last line without a line feed. -/
def ofInput (octets : List UInt8) (endless : Bool) : List InputEvent :=
  let parts := octetLines octets
  let final := parts.getLast?.getD []
  parts.dropLast.map ofOctets ++
    if endless then [interrupted]
    else (if final.isEmpty then [] else [ofOctets final]) ++ [ended]

end InputEvent

/-- How a conversation ends. -/
inductive Ending
  /-- The user left with a command. -/
  | left
  /-- The input ended. -/
  | inputEnded
  /-- The user interrupted. -/
  | interrupted
  /-- A line could not be read. -/
  | unreadable (fault : Utf8.Fault)
  /-- The score of a snippet did not fit in 64 bits. -/
  | overflow (step : Overflow)
  deriving DecidableEq, Repr

/-- A conversation while it runs. -/
structure Loop where
  /-- The conversation so far. -/
  conversation : Conversation
  /-- The lines of a message that is not finished. -/
  pending : List Text := []
  /-- How the conversation ended, if it has. -/
  ending : Option Ending := none
  deriving DecidableEq, Repr

namespace Loop

/-- What the user is greeted with. -/
def greeting : Text :=
  "🤖 Code Humanizer Chatbot (type 'help' or 'quit')\n".toList

/-- What asks for a message. -/
def prompt : Text :=
  "You: ".toList

/-- What is said at the end of the input. -/
def goodbyeAtEnd : Text :=
  "\n👋 Goodbye.\n".toList

/-- What is said after an interrupt. -/
def goodbyeOnInterrupt : Text :=
  "\n👋 Goodbye (keyboard interrupt).\n".toList

/-- Answers a message given by its lines, and asks for the next one unless the conversation ends. -/
def answerLines (palette : Palette) (s : Loop) (message : List Text) : Text × Loop :=
  match s.conversation.take (ofPieces message) with
  | .error step => ([], { s with pending := [], ending := some (.overflow step) })
  | .ok (answer, conversation) =>
    let shown := answer.render palette ++ ['\n']
    if answer.isLast then (shown, { conversation, ending := some .left })
    else (shown ++ prompt, { conversation })

/-- Takes in one line. -/
def stepLine (palette : Palette) (s : Loop) (content : Text) : Text × Loop :=
  if allBlank content then
    if s.pending.isEmpty then ([], s) else answerLines palette s s.pending
  else if s.pending.isEmpty && (chatCommand? content).isSome then answerLines palette s [content]
  else ([], { s with pending := s.pending ++ [content] })

/-- Takes in the end of the input, which also ends a message. -/
def stepEnd (palette : Palette) (s : Loop) : Text × Loop :=
  let (shown, s) := if s.pending.isEmpty then ([], s) else answerLines palette s s.pending
  match s.ending with
  | some _ => (shown, s)
  | none => (shown ++ goodbyeAtEnd, { s with ending := some .inputEnded })

/-- Takes in one event: what is written, and the loop behind it. -/
def step (palette : Palette) (s : Loop) (event : InputEvent) : Text × Loop :=
  match s.ending, event with
  | some _, _ => ([], s)
  | none, .line content => stepLine palette s content
  | none, .unreadable fault => ([], { s with pending := [], ending := some (.unreadable fault) })
  | none, .ended => stepEnd palette s
  | none, .interrupted =>
    (goodbyeOnInterrupt, { s with pending := [], ending := some .interrupted })

/-- Takes in events in order: all that is written, and the loop behind them. -/
def runFrom (palette : Palette) (s : Loop) : List InputEvent → Text × Loop
  | [] => ([], s)
  | event :: later =>
    let (shown, s) := step palette s event
    let (more, s) := runFrom palette s later
    (shown ++ more, s)

/-- Runs a conversation from the greeting on. -/
def run (palette : Palette) (conversation : Conversation) (events : List InputEvent) :
    Text × Loop :=
  let (shown, s) := runFrom palette { conversation } events
  (greeting ++ prompt ++ shown, s)

end Loop
end CodeGloss
