import CodeGloss.Proofs.Json.Codec

/-! # Written values

The grammar of the format.  A *form* is a value as it is written, token by token: a numeral keeps its
digits, a string keeps its escapes, and an object keeps its members in their order with all their
keys.  The one thing that a form leaves open is the space between the tokens.  The texts that write
a form out, with whatever space, are those that it is `Spelled` as.

The grammar stands apart from how texts are read.  It shares with that only which characters are
space, and how two units of UTF-16 make a character.
-/
namespace CodeGloss
namespace Json

open Cursor

/-! ## Strings -/

/-- A hexadecimal digit, with its letter in either case. -/
structure HexDigit where
  /-- What the digit is worth. -/
  value : Fin 16
  /-- Whether a letter is a capital. -/
  capital : Bool := false
  deriving DecidableEq

/-- The character of a digit. -/
def HexDigit.char (d : HexDigit) : Char :=
  if d.capital then d.value.val.digitChar.toUpper else d.value.val.digitChar

/-- The characters that a letter behind a backslash stands for. -/
def shortEscapes : List (Char × Char) :=
  [('"', '"'), ('\\', '\\'), ('/', '/'), ('b', Char.ofNat 8), ('f', Char.ofNat 12), ('n', '\n'),
    ('r', '\r'), ('t', '\t')]

/-- A part of a written string. -/
inductive StringPart
  /-- A character that stands for itself. -/
  | plain (c : Char) (h : ' ' ≤ c ∧ c ≠ '"' ∧ c ≠ '\\')
  /-- A letter behind a backslash, for a character. -/
  | escape (letter c : Char) (h : (letter, c) ∈ shortEscapes)
  /-- Four hexadecimal digits behind a backslash and `u`, for a unit of UTF-16. -/
  | unit (a b c d : HexDigit)

/-- The value of four hexadecimal digits. -/
def unitValue (a b c d : HexDigit) : Nat :=
  ((a.value * 16 + b.value) * 16 + c.value) * 16 + d.value

/-- The text of a part of a string. -/
def StringPart.text : StringPart → Text
  | plain c _ => [c]
  | escape letter _ _ => ['\\', letter]
  | unit a b c d => ['\\', 'u', a.char, b.char, c.char, d.char]

/-- A written string: its parts in order. -/
abbrev StringForm := List StringPart

namespace StringForm

/-- What stands between the quotes. -/
def body (s : StringForm) : Text :=
  s.flatMap StringPart.text

/-- The string with its quotes. -/
def text (s : StringForm) : Text :=
  '"' :: (s.body ++ ['"'])

/-- The text that the string stands for; none if a unit is half of a character and does not stand
beside the other half. -/
def meaning? : StringForm → Option Text
  | [] => some []
  | .plain c _ :: later => (meaning? later).map (c :: ·)
  | .escape _ c _ :: later => (meaning? later).map (c :: ·)
  | .unit a b c d :: later =>
    if StringLiteral.isTrailing (unitValue a b c d) then none
    else if StringLiteral.isLeading (unitValue a b c d) then
      match later with
      | .unit a' b' c' d' :: later =>
        if StringLiteral.isTrailing (unitValue a' b' c' d') then
          (meaning? later).map
            (StringLiteral.pairedChar (unitValue a b c d) (unitValue a' b' c' d') :: ·)
        else none
      | _ => none
    else (meaning? later).map (Char.ofNat (unitValue a b c d) :: ·)

end StringForm

/-! ## Numerals -/

/-- One decimal digit or more. -/
abbrev Digits := { t : Text // t ≠ [] ∧ ∀ c ∈ t, c.isDigit = true }

/-- A written exponent. -/
structure ExponentForm where
  /-- The letter in front of it. -/
  letter : Char
  /-- The letter is `e`, in either case. -/
  letter_eq : letter = 'e' ∨ letter = 'E'
  /-- The sign, if there is one. -/
  sign : Text
  /-- The sign is plus or minus. -/
  sign_eq : sign = [] ∨ sign = ['+'] ∨ sign = ['-']
  /-- The digits. -/
  digits : Digits

/-- The text of an exponent. -/
def ExponentForm.text (e : ExponentForm) : Text :=
  e.letter :: (e.sign ++ e.digits.val)

/-- A written number. -/
structure NumeralForm where
  /-- Whether there is a minus sign. -/
  minus : Bool := false
  /-- The digits of the integer part. -/
  integer : Digits
  /-- Zero is the only integer part that begins with a zero. -/
  integer_eq : integer.val.head? = some '0' → integer.val = ['0']
  /-- The digits behind the point, if there is one. -/
  fraction? : Option Digits := none
  /-- The exponent, if there is one. -/
  exponent? : Option ExponentForm := none

namespace NumeralForm

/-- The sign in front of a number. -/
def sign (n : NumeralForm) : Text :=
  if n.minus then ['-'] else []

/-- The point and the digits behind it. -/
def fraction (n : NumeralForm) : Text :=
  match n.fraction? with
  | none => []
  | some digits => '.' :: digits.val

/-- The exponent with its letter. -/
def exponent (n : NumeralForm) : Text :=
  match n.exponent? with
  | none => []
  | some e => e.text

/-- What stands behind the integer part. -/
def tail (n : NumeralForm) : Text :=
  n.fraction ++ n.exponent

/-- The text of a number. -/
def text (n : NumeralForm) : Text :=
  n.sign ++ (n.integer.val ++ n.tail)

end NumeralForm

/-! ## Values -/

/-- A written value. -/
inductive Form
  | null
  | flag (b : Bool)
  | number (n : NumeralForm)
  | string (s : StringForm)
  | list (items : List Form)
  | object (members : List (StringForm × Form))

/-- What stands in front of an element or a member: space, with a comma in it unless it is the first
one. -/
inductive Mark : (first : Bool) → Text → Prop
  | first {space : Text} : IsSpace space → Mark true space
  | later {before behind : Text} : IsSpace before → IsSpace behind →
      Mark false (before ++ ',' :: behind)

mutual

/-- The text is the value written out, with some space between the tokens. -/
inductive Form.Spelled : Form → Text → Prop
  | null : Form.Spelled .null "null".toList
  | flag (b : Bool) : Form.Spelled (.flag b) (if b then "true".toList else "false".toList)
  | number (n : NumeralForm) : Form.Spelled (.number n) n.text
  | string (s : StringForm) : Form.Spelled (.string s) s.text
  | list {items : List Form} {body : Text} :
      Form.ItemsSpelled true items body → Form.Spelled (.list items) ('[' :: (body ++ [']']))
  | object {members : List (StringForm × Form)} {body : Text} :
      Form.MembersSpelled true members body →
      Form.Spelled (.object members) ('\x7b' :: (body ++ ['\x7d']))

/-- The text is the elements of a list written out, up to the closing bracket. -/
inductive Form.ItemsSpelled : (first : Bool) → List Form → Text → Prop
  | nil {first : Bool} {space : Text} : IsSpace space → Form.ItemsSpelled first [] space
  | cons {first : Bool} {mark t later : Text} {f : Form} {items : List Form} :
      Mark first mark → Form.Spelled f t → Form.ItemsSpelled false items later →
      Form.ItemsSpelled first (f :: items) (mark ++ (t ++ later))

/-- The text is the members of an object written out, up to the closing brace. -/
inductive Form.MembersSpelled : (first : Bool) → List (StringForm × Form) → Text → Prop
  | nil {first : Bool} {space : Text} : IsSpace space → Form.MembersSpelled first [] space
  | cons {first : Bool} {mark before behind t later : Text} {key : StringForm} {f : Form}
      {members : List (StringForm × Form)} :
      Mark first mark → IsSpace before → IsSpace behind → Form.Spelled f t →
      Form.MembersSpelled false members later →
      Form.MembersSpelled first ((key, f) :: members)
        (mark ++ (key.text ++ (before ++ ':' :: (behind ++ (t ++ later)))))

end

namespace Form

/-- The text is the value written out with some space around it. -/
def Document (f : Form) (t : Text) : Prop :=
  ∃ before written behind, IsSpace before ∧ f.Spelled written ∧ IsSpace behind ∧
    t = before ++ (written ++ behind)

/-! ## The same space everywhere -/

/-- What stands in front of an element or a member, with the given space. -/
def mark (space : Text) (first : Bool) : Text :=
  if first then space else space ++ ',' :: space

mutual

/-- The value written out with the given space between all tokens. -/
def spaced (space : Text) : Form → Text
  | null => "null".toList
  | flag b => if b then "true".toList else "false".toList
  | number n => n.text
  | string s => s.text
  | list items => '[' :: (itemsSpaced space true items ++ [']'])
  | object members => '\x7b' :: (membersSpaced space true members ++ ['\x7d'])

/-- The elements of a list with the given space between all tokens. -/
def itemsSpaced (space : Text) (first : Bool) : List Form → Text
  | [] => space
  | f :: items => mark space first ++ (f.spaced space ++ itemsSpaced space false items)

/-- The members of an object with the given space between all tokens. -/
def membersSpaced (space : Text) (first : Bool) : List (StringForm × Form) → Text
  | [] => space
  | (key, f) :: members =>
    mark space first ++ (key.text ++
      (space ++ ':' :: (space ++ (f.spaced space ++ membersSpaced space false members))))

end

variable {space : Text}

theorem mark_of_isSpace (h : IsSpace space) (first : Bool) : Mark first (mark space first) := by
  cases first with
  | true => exact .first h
  | false => exact .later h h

mutual

/-- **Every form is spelled as a text**, with any space that is asked for. -/
theorem spelled_spaced (h : IsSpace space) : ∀ f : Form, f.Spelled (f.spaced space)
  | .null => .null
  | .flag b => .flag b
  | .number n => .number n
  | .string s => .string s
  | .list items => .list (itemsSpelled_itemsSpaced h true items)
  | .object members => .object (membersSpelled_membersSpaced h true members)

theorem itemsSpelled_itemsSpaced (h : IsSpace space) (first : Bool) :
    ∀ items : List Form, ItemsSpelled first items (itemsSpaced space first items)
  | [] => .nil h
  | f :: items =>
    .cons (mark_of_isSpace h first) (spelled_spaced h f) (itemsSpelled_itemsSpaced h false items)

theorem membersSpelled_membersSpaced (h : IsSpace space) (first : Bool) :
    ∀ members : List (StringForm × Form),
      MembersSpelled first members (membersSpaced space first members)
  | [] => .nil h
  | (_, f) :: members =>
    .cons (mark_of_isSpace h first) h h (spelled_spaced h f)
      (membersSpelled_membersSpaced h false members)

end

theorem document_spaced (h : IsSpace space) (f : Form) :
    f.Document (space ++ (f.spaced space ++ space)) :=
  ⟨space, f.spaced space, space, h, spelled_spaced h f, h, rfl⟩

end Form
end Json
end CodeGloss
