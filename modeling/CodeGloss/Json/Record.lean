import CodeGloss.Json.Codec

/-! # Records

A record is written as an object with its fields in order, one on a line.  It is read from an object
whose members stand in any order, members with other keys being passed over, or from a list of the
fields in order.  A field that is absent may have a default.

**Fields** describe a record without its type: each has a key, a codec and perhaps a default.
Values of the fields are gathered in a *draft*, and a full draft becomes a *tuple*.

A complaint about a record as a whole has no place of its own in the text.  It gets the place that
reading comes to when it looks for the end of the record.
-/

namespace CodeGloss
namespace Json

/-- The values of a list of types. -/
def Tuple : List Type → Type
  | [] => Unit
  | α :: types => α × Tuple types

/-- Values of some of the types of a list. -/
def Draft : List Type → Type
  | [] => Unit
  | α :: types => Option α × Draft types

/-- The fields of a record, by the types of their values. -/
inductive Fields : List Type → Type 1
  | nil : Fields []
  | cons {α : Type} {types : List Type} (key : Text) (codec : Codec α) (default? : Option α)
      (later : Fields types) : Fields (α :: types)

/-- Why the reading of a record stops. -/
inductive Stop
  /-- A fault with a place of its own. -/
  | fault (f : Fault)
  /-- A complaint about the record, which has no place yet, with the cursor where it came up. -/
  | unplaced (c : Complaint) (cur : Cursor)

/-- Lets a fault stop the reading of a record. -/
def Stop.lift {α : Type} : Except Fault α → Except Stop α
  | .ok a => .ok a
  | .error f => .error (.fault f)

namespace Fields

variable {types : List Type}

/-- The number of fields. -/
def size : {types : List Type} → Fields types → Nat
  | _, nil => 0
  | _, cons _ _ _ later => later.size + 1

/-- The draft without values. -/
def blank : {types : List Type} → Fields types → Draft types
  | _, nil => ()
  | _, cons _ _ _ later => (none, later.blank)

/-- The tuple of a draft, defaults standing in for absent values. -/
def finish : {types : List Type} → Fields types → Draft types → Except Complaint (Tuple types)
  | _, nil, _ => .ok ()
  | _, cons key _ default? later, (value?, draft) =>
    match value?.or default? with
    | none => .error (.missingMember key)
    | some a => (later.finish draft).map (a, ·)

/-- The written members of a record, each with its key. -/
def writeMembers (depth : Nat) : {types : List Type} → Fields types → Tuple types → List Text
  | _, nil, _ => []
  | _, cons key codec _ later, (a, tuple) =>
    (List.replicate (2 * depth) ' ' ++ StringLiteral.write key ++ ": ".toList ++
        codec.write depth a) ::
      later.writeMembers depth tuple

/-- The written form of a record at a depth of indentation. -/
def write (fields : Fields types) (depth : Nat) (tuple : Tuple types) : Text :=
  ['\x7b', '\n'] ++ ",\n".toList.intercalate (fields.writeMembers (depth + 1) tuple) ++
    '\n' :: List.replicate (2 * depth) ' ' ++ ['\x7d']

/-- Reads the value of the field with the given key into the draft, from behind the key; none if
there is no such field. -/
def readMember (key : Text) (cur : Cursor) :
    {types : List Type} → Fields types → Draft types → Except Stop (Option (Draft types × Cursor))
  | _, nil, _ => .ok none
  | _, cons k codec _ later, (value?, draft) =>
    if key = k then
      match value? with
      | some _ => .error (.unplaced (.duplicateMember key) cur)
      | none => do
        let (a, cur) ← Stop.lift (expectColon cur >>= codec.read)
        return some ((some a, draft), cur)
    else do
      match ← later.readMember key cur draft with
      | none => return none
      | some (draft, cur) => return some ((value?, draft), cur)

/-- Reads members up to the closing brace.  A step reads a member. -/
def readMembers (fields : Fields types) (first : Bool) :
    (steps : Nat) → Draft types → Cursor → Except Stop (Draft types × Cursor)
  | 0, _, cur => Stop.lift (cur.faultHere .endInObject)
  | steps + 1, draft, cur => do
    match ← Stop.lift (nextKey? first cur) with
    | (none, cur) => return (draft, cur)
    | (some key, cur) =>
      match ← fields.readMember key cur draft with
      | some (draft, cur) => fields.readMembers false steps draft cur
      | none =>
        let cur ← Stop.lift (expectColon cur >>= skipValue)
        fields.readMembers false steps draft cur

/-- What a list of the fields is called; `name` is what the record is called. -/
def listName (name : Text) (size : Nat) : Text :=
  name ++ " with ".toList ++ Text.decimal size ++
    (if size = 1 then " element".toList else " elements".toList)

/-- Reads the fields in order from a list, up to what is not a field of it.  `index` counts the
fields in front. -/
def readElements (expected : Text) (index : Nat) (cur : Cursor) :
    {types : List Type} → Fields types → Except Stop (Tuple types × Cursor)
  | _, nil => .ok ((), cur)
  | _, cons _ codec default? later => do
    match ← Stop.lift (nextElement? (index == 0) cur) with
    | (some cur, _) =>
      let (a, cur) ← Stop.lift (codec.read cur)
      let (tuple, cur) ← later.readElements expected (index + 1) cur
      return ((a, tuple), cur)
    | (none, cur) =>
      match default? with
      | none => .error (.unplaced (.wrongLength index expected) cur)
      | some a =>
        let (tuple, cur) ← later.readElements expected (index + 1) cur
        return ((a, tuple), cur)

/-- Ends the reading of a record with what `close` finds at its end. -/
def conclude {α : Type} (close : Cursor → Option Fault × Cursor) :
    Except Stop (α × Cursor) → Except Fault (α × Cursor)
  | .ok (a, cur) =>
    match close cur with
    | (none, cur) => .ok (a, cur)
    | (some fault, _) => .error fault
  | .error (.fault f) => .error f
  | .error (.unplaced complaint cur) => (close cur).2.complain complaint

/-- Reads a record that is called `name`. -/
def read (fields : Fields types) (name : Text) : Cursor → Except Fault (Tuple types × Cursor) :=
  Codec.readFrom fun c cur =>
    if c = '\x7b' then
      conclude closeObject do
        let (draft, cur) ← fields.readMembers true (cur.rest.length + 1) fields.blank cur.advance
        match fields.finish draft with
        | .ok tuple => return (tuple, cur)
        | .error complaint => .error (.unplaced complaint cur)
    else if c = '[' then
      conclude closeList (fields.readElements (listName name fields.size) 0 cur.advance)
    else readMismatch name cur

/-- Takes the value of the field with the given key into the draft; other keys are passed over. -/
def putMember (key : Text) (v : Value) :
    {types : List Type} → Fields types → Draft types → Except Complaint (Draft types)
  | _, nil, draft => .ok draft
  | _, cons k codec _ later, (value?, draft) =>
    if key = k then
      match value? with
      | some _ => .error (.duplicateMember key)
      | none => (codec.ofValue v).map fun a => (some a, draft)
    else (later.putMember key v draft).map (value?, ·)

/-- Takes the fields in order from the items of a list.  `index` counts the fields in front; the
items that are left over come second. -/
def takeItems (expected : Text) (index : Nat) :
    {types : List Type} → Fields types → List Value → Except Complaint (Tuple types × List Value)
  | _, nil, items => .ok ((), items)
  | _, cons _ codec _ later, v :: items => do
    let a ← codec.ofValue v
    let (tuple, left) ← later.takeItems expected (index + 1) items
    return ((a, tuple), left)
  | _, cons _ _ default? later, [] =>
    match default? with
    | none => .error (.wrongLength index expected)
    | some a => do
      let (tuple, left) ← later.takeItems expected (index + 1) []
      return ((a, tuple), left)

/-- Takes a record that is called `name` from a value. -/
def ofValue (fields : Fields types) (name : Text) : Value → Except Complaint (Tuple types)
  | .object members => do
    let draft ← members.foldlM (fun draft (key, v) => fields.putMember key v draft) fields.blank
    fields.finish draft
  | .array items => do
    let (tuple, left) ← fields.takeItems (listName name fields.size) 0 items
    if left.isEmpty then return tuple
    else .error (.wrongLength items.length "fewer elements in array".toList)
  | v => .error (.wrongType v.found name)

end Fields

/-- Records of a type, given by their fields and by how they are made of them and taken apart. -/
def Codec.record {α : Type} {types : List Type} (name : String) (fields : Fields types)
    (make : Tuple types → α) (parts : α → Tuple types) : Codec α where
  write depth a := fields.write depth (parts a)
  read cur :=
    (fields.read ("struct ".toList ++ name.toList) cur).map fun (tuple, cur) => (make tuple, cur)
  ofValue v := (fields.ofValue ("struct ".toList ++ name.toList) v).map make

end Json
end CodeGloss
