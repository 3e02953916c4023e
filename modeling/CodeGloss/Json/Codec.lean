import CodeGloss.Json.Value

/-! # Codecs

A codec for a type says how its values are written, how they are read from a text, and how they are
taken from a value that was read before.  Reading from a text asks for the type while it reads, so
the first thing that is wrong is reported, be it a fault of the text or of the value.

This module has the codecs of flags, 64-bit numbers, texts and choices among named values.
-/

namespace CodeGloss
namespace Json

open Text

/-- How values of a type are written and read. -/
structure Codec (α : Type) where
  /-- The written form, at a depth of indentation. -/
  write : (depth : Nat) → α → Text
  /-- Reads a value from a text. -/
  read : Cursor → Except Fault (α × Cursor)
  /-- Takes a value from one that was read before. -/
  ofValue : Value → Except Complaint α

/-- A complaint about a value, placed where reading has come to. -/
def Cursor.complain {α : Type} (cur : Cursor) (c : Complaint) : Except Fault α :=
  cur.faultHere (.complaint c)

/-- Reads a value that is not of the expected type, and complains behind it.  A list or an object is
not read; the complaint stands in front of it. -/
def readMismatch {α : Type} (expected : Text) (cur : Cursor) : Except Fault α :=
  let complain (found : Found) (cur : Cursor) : Except Fault α :=
    cur.complain (.wrongType found expected)
  match cur.next? with
  | some 'n' => (expectWord "ull".toList cur.advance).bind (complain .null)
  | some 't' => (expectWord "rue".toList cur.advance).bind (complain (.flag true))
  | some 'f' => (expectWord "alse".toList cur.advance).bind (complain (.flag false))
  | some '"' => (StringLiteral.read cur.advance).bind fun (t, cur) => complain (.text t) cur
  | some '[' => complain .sequence cur
  | some '\x7b' => complain .map cur
  | some c =>
    if c = '-' || c.isDigit then
      (Numeral.read cur).bind fun (n, cur) => complain (.number n) cur
    else cur.faultNext .expectedValue
  | none => cur.faultNext .expectedValue

namespace Codec

/-- Reads the next value with what `choose` says for its first character; at the end of the text
there is none. -/
def readFrom {α : Type} (choose : Char → Cursor → Except Fault (α × Cursor)) (cur : Cursor) :
    Except Fault (α × Cursor) :=
  let cur := cur.skipSpace
  match cur.next? with
  | none => cur.faultHere .endInValue
  | some c => choose c cur

/-- The written form of a flag. -/
def writeFlag (b : Bool) : Text :=
  if b then "true".toList else "false".toList

/-- Flags. -/
def flag : Codec Bool where
  write _ b := writeFlag b
  read := readFrom fun c cur =>
    if c = 't' then (expectWord "rue".toList cur.advance).map (true, ·)
    else if c = 'f' then (expectWord "alse".toList cur.advance).map (false, ·)
    else readMismatch "a boolean".toList cur
  ofValue
    | .flag b => .ok b
    | v => .error (.wrongType v.found "a boolean".toList)

/-- What 64-bit numbers are called. -/
def countName : Text :=
  "usize".toList

/-- The 64-bit number that a number is. -/
def countOf : Number → Except Complaint UInt64
  | .natural n => .ok n
  | .negative n => .error (.wrongValue (.number (.negative n)) countName)
  | .double x => .error (.wrongType (.number (.double x)) countName)

/-- Numbers of 64 bits. -/
def count : Codec UInt64 where
  write _ n := decimal64 n
  read := readFrom fun c cur =>
    if c = '-' || c.isDigit then do
      let (n, cur) ← Numeral.read cur
      match countOf n with
      | .ok n => .ok (n, cur)
      | .error complaint => cur.complain complaint
    else readMismatch countName cur
  ofValue
    | .number n => countOf n
    | v => .error (.wrongType v.found countName)

/-- Texts. -/
def text : Codec Text where
  write _ t := StringLiteral.write t
  read := readFrom fun c cur =>
    if c = '"' then StringLiteral.read cur.advance else readMismatch "a string".toList cur
  ofValue
    | .text t => .ok t
    | v => .error (.wrongType v.found "a string".toList)

/-- The choice with the given name. -/
def choose {α : Type} (name : α → Text) (all : List α) (given : Text) : Except Complaint α :=
  match all.find? fun a => name a = given with
  | some a => .ok a
  | none => .error (.unknownChoice given (all.map name))

/-- Reads the name of a choice, from behind its first quote. -/
def readChoice {α : Type} (name : α → Text) (all : List α) (cur : Cursor) :
    Except Fault (α × Cursor) := do
  let (given, cur) ← StringLiteral.read cur.advance
  match choose name all given with
  | .ok a => return (a, cur)
  | .error complaint => cur.complain complaint

/-- Choices among named values.  A choice is written as its name; an object that has the name as its
one key, with the value null, is read as well. -/
def choice {α : Type} (name : α → Text) (all : List α) : Codec α where
  write _ a := StringLiteral.write (name a)
  read := readFrom fun c cur =>
    if c = '"' then readChoice name all cur
    else if c = '\x7b' then do
      let (a, cur) ← readFrom (fun c cur =>
        if c = '"' then readChoice name all cur
        else readMismatch "variant identifier".toList cur) cur.advance
      let cur := (← expectColon cur).skipSpace
      match cur.next? with
      | none => cur.faultHere .endInValue
      | some 'n' =>
        let cur := (← expectWord "ull".toList cur.advance).skipSpace
        match cur.next? with
        | none => cur.faultHere .endInObject
        | some '\x7d' => return (a, cur.advance)
        | some _ => cur.faultHere .expectedValue
      | some _ => readMismatch "unit".toList cur
    else cur.faultNext .expectedValue
  ofValue
    | .text given => choose name all given
    | .object [(given, v)] =>
      match choose name all given, v with
      | .error complaint, _ => .error complaint
      | .ok a, .null => .ok a
      | .ok _, v => .error (.wrongType v.found "unit".toList)
    | .object _ => .error (.wrongValue .map "map with a single key".toList)
    | v => .error (.wrongType v.found "string or map".toList)

/-- Reads a text that is one value. -/
def parse {α : Type} (codec : Codec α) (t : Text) : Except Fault α := do
  let (a, cur) ← codec.read ⟨t, {}⟩
  let cur := cur.skipSpace
  if cur.rest.isEmpty then return a else cur.faultNext .trailingCharacters

/-- The written form of a value that stands by itself. -/
def render {α : Type} (codec : Codec α) (a : α) : Text :=
  codec.write 0 a

end Codec
end Json
end CodeGloss
