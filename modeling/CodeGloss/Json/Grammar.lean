import CodeGloss.Json.Numeral
import CodeGloss.Json.StringLiteral

/-! # The parts of the format

Words, the marks between the parts of lists and objects, and values that are passed over.  A value
that nobody asks for must still follow the rules of the format, but its numbers may be of any size,
its escapes need not stand for characters, and a comma in front of a closing bracket counts as a
missing value or key.
-/

namespace CodeGloss
namespace Json

/-- Passes over the characters of a word. -/
def expectWord : Text → Cursor → Except Fault Cursor
  | [], cur => .ok cur
  | c :: word, cur =>
    match cur.next? with
    | none => cur.faultHere .endInValue
    | some found => if found = c then expectWord word cur.advance else cur.faultNext .expectedIdent

/-- Passes over the colon between a key and its value. -/
def expectColon (cur : Cursor) : Except Fault Cursor :=
  let cur := cur.skipSpace
  match cur.next? with
  | none => cur.faultHere .endInObject
  | some c => if c = ':' then .ok cur.advance else cur.faultNext .expectedColon

/-- The cursor in front of the next element of a list, or none in front of the closing bracket; the
cursor then stands in front of that. -/
def nextElement? (first : Bool) (cur : Cursor) : Except Fault (Option Cursor × Cursor) :=
  let cur := cur.skipSpace
  match cur.next? with
  | none => cur.faultHere .endInList
  | some c =>
    if c = ']' then .ok (none, cur)
    else if first then .ok (some cur, cur)
    else if c = ',' then
      let cur := cur.advance.skipSpace
      match cur.next? with
      | none => cur.faultHere .endInValue
      | some c => if c = ']' then cur.faultNext .trailingComma else .ok (some cur, cur)
    else cur.faultNext .expectedCommaOrBracket

/-- The key of the next member of an object with the cursor behind it, or none in front of the
closing brace; the cursor then stands in front of that. -/
def nextKey? (first : Bool) (cur : Cursor) : Except Fault (Option Text × Cursor) :=
  let readKey (cur : Cursor) : Except Fault (Option Text × Cursor) := do
    let (key, cur) ← StringLiteral.read cur.advance
    return (some key, cur)
  let cur := cur.skipSpace
  match cur.next? with
  | none => cur.faultHere .endInObject
  | some c =>
    if c = '\x7d' then .ok (none, cur)
    else if first then if c = '"' then readKey cur else cur.faultNext .keyNotString
    else if c = ',' then
      let cur := cur.advance.skipSpace
      match cur.next? with
      | none => cur.faultHere .endInValue
      | some c =>
        if c = '"' then readKey cur
        else if c = '\x7d' then cur.faultNext .trailingComma
        else cur.faultNext .keyNotString
    else cur.faultNext .expectedCommaOrBrace

/-- Passes over the bracket that closes a list.  The cursor says how far reading has come, also if
there is no bracket. -/
def closeList (cur : Cursor) : Option Fault × Cursor :=
  let cur := cur.skipSpace
  match cur.next? with
  | none => (some ⟨.endInList, some cur.position⟩, cur)
  | some c =>
    if c = ']' then (none, cur.advance)
    else if c = ',' then
      let cur := cur.advance.skipSpace
      if cur.next? = some ']' then (some ⟨.trailingComma, some cur.peeked⟩, cur)
      else (some ⟨.trailingCharacters, some cur.peeked⟩, cur)
    else (some ⟨.trailingCharacters, some cur.peeked⟩, cur)

/-- Passes over the brace that closes an object.  The cursor says how far reading has come, also if
there is no brace. -/
def closeObject (cur : Cursor) : Option Fault × Cursor :=
  let cur := cur.skipSpace
  match cur.next? with
  | none => (some ⟨.endInObject, some cur.position⟩, cur)
  | some c =>
    if c = '\x7d' then (none, cur.advance)
    else if c = ',' then (some ⟨.trailingComma, some cur.peeked⟩, cur)
    else (some ⟨.trailingCharacters, some cur.peeked⟩, cur)

namespace Skip

/-- Passes over an exponent, from behind its letter. -/
def exponent (cur : Cursor) : Except Fault Cursor :=
  let cur := match cur.next? with
    | some '+' | some '-' => cur.advance
    | _ => cur
  if cur.next?.any Char.isDigit then .ok (cur.takeWhile Char.isDigit).2
  else cur.faultNext .invalidNumber

/-- Passes over a fraction, from behind its point, and the exponent behind it. -/
def fraction (cur : Cursor) : Except Fault Cursor :=
  if cur.next?.any Char.isDigit then
    let cur := (cur.takeWhile Char.isDigit).2
    match cur.next? with
    | some 'e' | some 'E' => exponent cur.advance
    | _ => .ok cur
  else cur.faultNext .invalidNumber

/-- Passes over what follows an integer part. -/
def behindInteger (cur : Cursor) : Except Fault Cursor :=
  match cur.next? with
  | some '.' => fraction cur.advance
  | some 'e' | some 'E' => exponent cur.advance
  | _ => .ok cur

/-- Passes over a numeral behind its sign. -/
def unsigned (cur : Cursor) : Except Fault Cursor :=
  match cur.next? with
  | some '0' =>
    let cur := cur.advance
    if cur.next?.any Char.isDigit then cur.faultNext .invalidNumber else behindInteger cur
  | some c =>
    if c.isDigit then behindInteger (cur.takeWhile Char.isDigit).2 else cur.faultNext .invalidNumber
  | none => cur.faultHere .invalidNumber

mutual

/-- Passes over a value.  A step takes a character or goes from a list or object to what stands in
it. -/
def value : (steps : Nat) → Cursor → Except Fault Cursor
  | 0, cur => cur.faultHere .endInValue
  | steps + 1, cur =>
    let cur := cur.skipSpace
    match cur.next? with
    | none => cur.faultHere .endInValue
    | some 'n' => expectWord "ull".toList cur.advance
    | some 't' => expectWord "rue".toList cur.advance
    | some 'f' => expectWord "alse".toList cur.advance
    | some '-' => unsigned cur.advance
    | some '"' => StringLiteral.skip cur.advance
    | some '[' =>
      let cur := cur.advance.skipSpace
      match cur.next? with
      | none => cur.faultHere .endInList
      | some ']' => .ok cur.advance
      | some _ => elements steps cur
    | some '\x7b' =>
      let cur := cur.advance.skipSpace
      match cur.next? with
      | none => cur.faultHere .endInObject
      | some '\x7d' => .ok cur.advance
      | some _ => members steps cur
    | some c => if c.isDigit then unsigned cur else cur.faultNext .expectedValue

/-- Passes over the elements of a list, of which there is at least one, and the closing bracket. -/
def elements : (steps : Nat) → Cursor → Except Fault Cursor
  | 0, cur => cur.faultHere .endInList
  | steps + 1, cur => do
    let cur := (← value steps cur).skipSpace
    match cur.next? with
    | none => cur.faultHere .endInList
    | some ',' => elements steps cur.advance
    | some ']' => .ok cur.advance
    | some _ => cur.faultNext .expectedCommaOrBracket

/-- Passes over the members of an object, of which there is at least one, and the closing brace. -/
def members : (steps : Nat) → Cursor → Except Fault Cursor
  | 0, cur => cur.faultHere .endInObject
  | steps + 1, cur => do
    let cur := cur.skipSpace
    match cur.next? with
    | none => cur.faultHere .endInObject
    | some '"' =>
      let cur ← StringLiteral.skip cur.advance
      let cur ← expectColon cur
      let cur := (← value steps cur).skipSpace
      match cur.next? with
      | none => cur.faultHere .endInObject
      | some ',' => members steps cur.advance
      | some '\x7d' => .ok cur.advance
      | some _ => cur.faultNext .expectedCommaOrBrace
    | some _ => cur.faultNext .keyNotString

end
end Skip

/-- Passes over a value that nobody asks for. -/
def skipValue (cur : Cursor) : Except Fault Cursor :=
  Skip.value (2 * cur.rest.length + 2) cur

end Json
end CodeGloss
