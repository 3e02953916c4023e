import CodeGloss.Json.Fault

/-! # Strings of the format

A string stands between double quotes; quotes, backslashes and controls in it are escaped.  An
escape of four hexadecimal digits gives a UTF-16 unit, and two such escapes in a row give a
character beyond the first plane.

`read` takes the text of a string, `skip` passes over a string and looks at its escapes only as far
as it must, and `write` is the written form of a text.
-/

namespace CodeGloss
namespace Json
namespace StringLiteral

open Text

/-- Whether the character must be escaped as a control. -/
def isControl (c : Char) : Bool :=
  c.toNat < 0x20

/-- The value of a hexadecimal digit of either case. -/
def hexValue? (c : Char) : Option Nat :=
  if c.isDigit then some (c.toNat - '0'.toNat)
  else if 'a' ≤ c && c ≤ 'f' then some (c.toNat - 'a'.toNat + 10)
  else if 'A' ≤ c && c ≤ 'F' then some (c.toNat - 'A'.toNat + 10)
  else none

/-- The value of four hexadecimal digits. -/
def hexUnit? (a b c d : Char) : Option Nat :=
  match hexValue? a, hexValue? b, hexValue? c, hexValue? d with
  | some a, some b, some c, some d => some (((a * 16 + b) * 16 + c) * 16 + d)
  | _, _, _, _ => none

/-- The number of octets of a text. -/
def octetCount (t : Text) : Nat :=
  (t.map Char.utf8Size).foldr (· + ·) 0

/-- The text behind all its characters. -/
def toEnd (cur : Cursor) : Cursor :=
  ⟨[], cur.rest.foldl Position.behind cur.position⟩

/-- Reads four hexadecimal digits. -/
def readUnit (cur : Cursor) : Except Fault (Nat × Cursor) :=
  let refuse : Except Fault (Nat × Cursor) :=
    if octetCount (cur.rest.take 4) < 4 then (toEnd cur).faultHere .endInString
    else .error ⟨.invalidEscape, some (cur.position.skipOctets 4 cur.rest)⟩
  match cur.rest with
  | a :: b :: c :: d :: _ =>
    match hexUnit? a b c d with
    | some n => .ok (n, cur.advanceBy 4)
    | none => refuse
  | _ => refuse

/-- Whether the unit is the first of two. -/
def isLeading (n : Nat) : Bool :=
  0xD800 ≤ n && n ≤ 0xDBFF

/-- Whether the unit is the second of two. -/
def isTrailing (n : Nat) : Bool :=
  0xDC00 ≤ n && n ≤ 0xDFFF

/-- The character that two units stand for. -/
def pairedChar (first second : Nat) : Char :=
  Char.ofNat (0x10000 + (first - 0xD800) * 0x400 + (second - 0xDC00))

/-- Passes over a character that a second unit needs. -/
def expectOfPair (c : Char) (cur : Cursor) : Except Fault Cursor :=
  match cur.next? with
  | none => cur.faultHere .endInString
  | some found => if found = c then .ok cur.advance else cur.faultNext .unexpectedEndOfHexEscape

/-- Reads the character of a numeric escape, from its digits on. -/
def readNumeric (cur : Cursor) : Except Fault (Char × Cursor) := do
  let (first, cur) ← readUnit cur
  if isTrailing first then cur.faultHere .loneSurrogate
  else if isLeading first then
    let cur ← expectOfPair '\\' cur
    let cur ← expectOfPair 'u' cur
    let (second, cur) ← readUnit cur
    if isTrailing second then return (pairedChar first second, cur)
    else cur.faultHere .loneSurrogate
  else return (Char.ofNat first, cur)

/-- The character that a letter stands for behind a backslash. -/
def simpleEscape? (c : Char) : Option Char :=
  if c = '"' || c = '\\' || c = '/' then some c
  else if c = 'b' then some (Char.ofNat 8)
  else if c = 'f' then some (Char.ofNat 12)
  else if c = 'n' then some '\n'
  else if c = 'r' then some '\r'
  else if c = 't' then some '\t'
  else none

/-- Reads the character of an escape, from behind the backslash. -/
def readEscape (cur : Cursor) : Except Fault (Char × Cursor) :=
  match cur.next? with
  | none => cur.faultHere .endInString
  | some c =>
    if c = 'u' then readNumeric cur.advance
    else match simpleEscape? c with
      | some e => .ok (e, cur.advance)
      | none => cur.faultNext .invalidEscape

/-- Reads the text of a string from behind its first quote, in at most `steps` steps.  A step takes
at least one character. -/
def readSteps : (steps : Nat) → Cursor → Except Fault (Text × Cursor)
  | 0, cur => cur.faultHere .endInString
  | steps + 1, cur =>
    match cur.next? with
    | none => cur.faultHere .endInString
    | some c =>
      if c = '"' then .ok ([], cur.advance)
      else if c = '\\' then do
        let (e, cur) ← readEscape cur.advance
        let (t, cur) ← readSteps steps cur
        return (e :: t, cur)
      else if isControl c then cur.faultNext .controlCharacter
      else do
        let (t, cur) ← readSteps steps cur.advance
        return (c :: t, cur)

/-- Reads the text of a string from behind its first quote. -/
def read (cur : Cursor) : Except Fault (Text × Cursor) :=
  readSteps (cur.rest.length + 1) cur

/-- Passes over an escape, from behind the backslash.  Whether a numeric escape stands for a
character is left open. -/
def skipEscape (cur : Cursor) : Except Fault Cursor :=
  match cur.next? with
  | none => cur.faultHere .endInString
  | some c =>
    if c = 'u' then (readUnit cur.advance).map Prod.snd
    else if (simpleEscape? c).isSome then .ok cur.advance
    else cur.faultNext .invalidEscape

/-- Passes over a string from behind its first quote, in at most `steps` steps. -/
def skipSteps : (steps : Nat) → Cursor → Except Fault Cursor
  | 0, cur => cur.faultHere .endInString
  | steps + 1, cur =>
    match cur.next? with
    | none => cur.faultHere .endInString
    | some c =>
      if c = '"' then .ok cur.advance
      else if c = '\\' then do skipSteps steps (← skipEscape cur.advance)
      else if isControl c then cur.faultHere .controlCharacter
      else skipSteps steps cur.advance

/-- Passes over a string from behind its first quote. -/
def skip (cur : Cursor) : Except Fault Cursor :=
  skipSteps (cur.rest.length + 1) cur

/-- A character as it is written in a string. -/
def writeChar (c : Char) : Text :=
  if c = '"' || c = '\\' then ['\\', c]
  else if c.toNat = 8 then "\\b".toList
  else if c.toNat = 12 then "\\f".toList
  else if c = '\n' then "\\n".toList
  else if c = '\r' then "\\r".toList
  else if c = '\t' then "\\t".toList
  else if isControl c then
    "\\u00".toList ++ [Nat.digitChar (c.toNat / 16), Nat.digitChar (c.toNat % 16)]
  else [c]

/-- The written form of a text. -/
def write (t : Text) : Text :=
  '"' :: t.flatMap writeChar ++ ['"']

end StringLiteral
end Json
end CodeGloss
