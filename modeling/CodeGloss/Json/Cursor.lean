import CodeGloss.Text.Basic

/-! # Places in a text

A cursor stands in a text that is being read: it knows what is left to read and how far reading has
come.  A position is a line and a number of octets on that line, as the text is stored; it can lie
within a character.
-/

namespace CodeGloss
namespace Json

/-- A place in a text: the line, from 1, and the octets of the line in front of the place. -/
structure Position where
  /-- The line. -/
  line : Nat := 1
  /-- The octets of the line in front of the place. -/
  column : Nat := 0
  deriving DecidableEq, Repr

namespace Position

/-- The place behind a character. -/
def behind (p : Position) (c : Char) : Position :=
  if c = '\n' then ⟨p.line + 1, 0⟩ else ⟨p.line, p.column + c.utf8Size⟩

/-- The place behind the first octet of a character. -/
def intoChar (p : Position) (c : Char) : Position :=
  if c = '\n' then ⟨p.line + 1, 0⟩ else ⟨p.line, p.column + 1⟩

/-- The place `n` octets further on in a text. -/
def skipOctets (p : Position) : Nat → Text → Position
  | 0, _ => p
  | _ + 1, [] => p
  | n + 1, c :: rest =>
    if c.utf8Size ≤ n + 1 then skipOctets (p.behind c) (n + 1 - c.utf8Size) rest
    else ⟨p.line, p.column + (n + 1)⟩

end Position

/-- A place in a text with what is left to read. -/
structure Cursor where
  /-- What is left to read. -/
  rest : Text
  /-- How far reading has come. -/
  position : Position := {}
  deriving DecidableEq, Repr

namespace Cursor

/-- The place behind the first octet of the next character; at the end of the text, the end. -/
def peeked (cur : Cursor) : Position :=
  match cur.rest with
  | [] => cur.position
  | c :: _ => cur.position.intoChar c

/-- The cursor behind the next character. -/
def advance (cur : Cursor) : Cursor :=
  match cur.rest with
  | [] => cur
  | c :: rest => ⟨rest, cur.position.behind c⟩

/-- The cursor behind the next `n` characters. -/
def advanceBy : Nat → Cursor → Cursor
  | 0, cur => cur
  | n + 1, cur => advanceBy n cur.advance

/-- Whether the format allows the character between its tokens. -/
def isSpace (c : Char) : Bool :=
  c = ' ' || c = '\t' || c = '\n' || c = '\r'

/-- The cursor behind the characters at the start that satisfy `p`, and those characters. -/
def takeWhileFrom (p : Char → Bool) : Text → Position → Text × Cursor
  | [], position => ([], ⟨[], position⟩)
  | c :: rest, position =>
    if p c then
      let (taken, cur) := takeWhileFrom p rest (position.behind c)
      (c :: taken, cur)
    else ([], ⟨c :: rest, position⟩)

/-- The next characters that satisfy `p`, and the cursor behind them. -/
def takeWhile (p : Char → Bool) (cur : Cursor) : Text × Cursor :=
  takeWhileFrom p cur.rest cur.position

/-- The cursor behind the space between tokens. -/
def skipSpace (cur : Cursor) : Cursor :=
  (cur.takeWhile isSpace).2

/-- The next character. -/
def next? (cur : Cursor) : Option Char :=
  cur.rest.head?

end Cursor
end Json
end CodeGloss
