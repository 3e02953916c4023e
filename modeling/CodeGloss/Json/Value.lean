import CodeGloss.Json.Grammar

/-! # Values

A value that was read without asking what it should be.  The members of an object are kept in the
order of their keys; of members with the same key the last one counts.
-/

namespace CodeGloss
namespace Json

/-- A value of the format. -/
inductive Value
  | null
  | flag (b : Bool)
  | number (n : Number)
  | text (t : Text)
  | array (items : List Value)
  | object (members : List (Text × Value))
  deriving Inhabited, Repr

namespace Value

/-- What a value is called in a message. -/
def found : Value → Found
  | null => .null
  | flag b => .flag b
  | number n => .number n
  | text t => .text t
  | array _ => .sequence
  | object _ => .map

/-- Puts a member in its place by the order of keys, over a member with the same key. -/
def insertMember (key : Text) (v : Value) : List (Text × Value) → List (Text × Value)
  | [] => [(key, v)]
  | (k, w) :: later =>
    if key = k then (key, v) :: later
    else if key < k then (key, v) :: (k, w) :: later
    else (k, w) :: insertMember key v later

/-- The value of a member of an object. -/
def member? (key : Text) : Value → Option Value
  | object members => members.lookup key
  | _ => none

mutual

/-- Reads a value.  A step takes a character or goes from a list or object to what stands in it. -/
def readSteps : (steps : Nat) → Cursor → Except Fault (Value × Cursor)
  | 0, cur => cur.faultHere .endInValue
  | steps + 1, cur =>
    let cur := cur.skipSpace
    match cur.next? with
    | none => cur.faultHere .endInValue
    | some 'n' => (expectWord "ull".toList cur.advance).map (null, ·)
    | some 't' => (expectWord "rue".toList cur.advance).map (flag true, ·)
    | some 'f' => (expectWord "alse".toList cur.advance).map (flag false, ·)
    | some '"' => (StringLiteral.read cur.advance).map fun (t, cur) => (text t, cur)
    | some '[' => do
      let (items, cur) ← readItems true steps cur.advance
      return (array items, cur)
    | some '\x7b' => do
      let (members, cur) ← readMembers true [] steps cur.advance
      return (object members, cur)
    | some c =>
      if c = '-' || c.isDigit then (Numeral.read cur).map fun (n, cur) => (number n, cur)
      else cur.faultNext .expectedValue

/-- Reads the elements of a list and its closing bracket. -/
def readItems (first : Bool) : (steps : Nat) → Cursor → Except Fault (List Value × Cursor)
  | 0, cur => cur.faultHere .endInList
  | steps + 1, cur => do
    match ← nextElement? first cur with
    | (none, cur) => return ([], cur.advance)
    | (some cur, _) =>
      let (v, cur) ← readSteps steps cur
      let (items, cur) ← readItems false steps cur
      return (v :: items, cur)

/-- Reads the members of an object and its closing brace. -/
def readMembers (first : Bool) (members : List (Text × Value)) :
    (steps : Nat) → Cursor → Except Fault (List (Text × Value) × Cursor)
  | 0, cur => cur.faultHere .endInObject
  | steps + 1, cur => do
    match ← nextKey? first cur with
    | (none, cur) => return (members, cur.advance)
    | (some key, cur) =>
      let cur ← expectColon cur
      let (v, cur) ← readSteps steps cur
      readMembers false (insertMember key v members) steps cur

end

/-- Reads a text that is one value. -/
def parse (t : Text) : Except Fault Value := do
  let (v, cur) ← readSteps (2 * t.length + 2) ⟨t, {}⟩
  let cur := cur.skipSpace
  if cur.rest.isEmpty then return v else cur.faultNext .trailingCharacters

end Value
end Json
end CodeGloss
