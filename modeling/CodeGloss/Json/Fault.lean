import CodeGloss.Json.Cursor
import CodeGloss.Json.Number
import CodeGloss.Text.Quoted

/-! # What can be wrong with a text or a value

A text can break the rules of the format, and a value that follows them can be other than what is
wanted.  A fault in a text has a position; a fault in a value that was not read from a text has
none.
-/

namespace CodeGloss
namespace Json

open Text

/-- What stands where something else is wanted. -/
inductive Found
  | null
  | flag (b : Bool)
  | number (n : Number)
  | text (t : Text)
  | sequence
  | map
  deriving DecidableEq, Repr

/-- What a value is called in a message. -/
def Found.describe : Found → Text
  | null => "null".toList
  | flag b => "boolean `".toList ++ (if b then "true".toList else "false".toList) ++ "`".toList
  | number n => n.describe
  | text t => "string ".toList ++ quoted t
  | sequence => "sequence".toList
  | map => "map".toList

/-- What is wrong with a value. -/
inductive Complaint
  /-- The value is of another type. -/
  | wrongType (found : Found) (expected : Text)
  /-- The value is of the right type, but not one that is allowed. -/
  | wrongValue (found : Found) (expected : Text)
  /-- A sequence has the wrong number of elements. -/
  | wrongLength (length : Nat) (expected : Text)
  /-- The text is none of the known choices. -/
  | unknownChoice (given : Text) (known : List Text)
  /-- A member that must be there is missing. -/
  | missingMember (key : Text)
  /-- A member is there twice. -/
  | duplicateMember (key : Text)
  deriving DecidableEq, Repr

/-- The choices, each between backquotes, separated by commas. -/
def listChoices (known : List Text) : Text :=
  ", ".toList.intercalate (known.map fun choice => '`' :: choice ++ ['`'])

/-- What is said of a value. -/
def Complaint.message : Complaint → Text
  | wrongType found expected =>
    "invalid type: ".toList ++ found.describe ++ ", expected ".toList ++ expected
  | wrongValue found expected =>
    "invalid value: ".toList ++ found.describe ++ ", expected ".toList ++ expected
  | wrongLength length expected =>
    "invalid length ".toList ++ decimal length ++ ", expected ".toList ++ expected
  | unknownChoice given known =>
    "unknown variant `".toList ++ given ++ "`, expected one of ".toList ++ listChoices known
  | missingMember key => "missing field `".toList ++ key ++ "`".toList
  | duplicateMember key => "duplicate field `".toList ++ key ++ "`".toList

/-- What is wrong with a text or a value. -/
inductive Cause
  | endInValue
  | endInList
  | endInObject
  | endInString
  | expectedValue
  | expectedIdent
  | expectedColon
  | expectedCommaOrBracket
  | expectedCommaOrBrace
  | keyNotString
  | trailingComma
  | trailingCharacters
  | invalidNumber
  | numberOutOfRange
  | controlCharacter
  | invalidEscape
  | unexpectedEndOfHexEscape
  | loneSurrogate
  /-- The text follows the rules, but a value in it is not what is wanted. -/
  | complaint (c : Complaint)
  deriving DecidableEq, Repr

/-- What is said of a text or a value. -/
def Cause.message : Cause → Text
  | endInValue => "EOF while parsing a value".toList
  | endInList => "EOF while parsing a list".toList
  | endInObject => "EOF while parsing an object".toList
  | endInString => "EOF while parsing a string".toList
  | expectedValue => "expected value".toList
  | expectedIdent => "expected ident".toList
  | expectedColon => "expected `:`".toList
  | expectedCommaOrBracket => "expected `,` or `]`".toList
  | expectedCommaOrBrace => "expected `,` or `\x7d`".toList
  | keyNotString => "key must be a string".toList
  | trailingComma => "trailing comma".toList
  | trailingCharacters => "trailing characters".toList
  | invalidNumber => "invalid number".toList
  | numberOutOfRange => "number out of range".toList
  | controlCharacter => "control character (\\u0000-\\u001F) found while parsing a string".toList
  | invalidEscape => "invalid escape".toList
  | unexpectedEndOfHexEscape => "unexpected end of hex escape".toList
  | loneSurrogate => "lone leading surrogate in hex escape".toList
  | complaint c => c.message

/-- What is wrong, and where. -/
structure Fault where
  /-- What is wrong. -/
  cause : Cause
  /-- Where it is, for a fault in a text. -/
  position : Option Position := none
  deriving DecidableEq, Repr

/-- What is said of a fault, with its position. -/
def Fault.message (f : Fault) : Text :=
  f.cause.message ++ match f.position with
    | none => []
    | some p => " at line ".toList ++ decimal p.line ++ " column ".toList ++ decimal p.column

namespace Cursor

/-- A fault at the place that reading has come to. -/
def faultHere {α : Type} (cur : Cursor) (cause : Cause) : Except Fault α :=
  .error ⟨cause, some cur.position⟩

/-- A fault of the next character, placed behind its first octet. -/
def faultNext {α : Type} (cur : Cursor) (cause : Cause) : Except Fault α :=
  .error ⟨cause, some cur.peeked⟩

end Cursor
end Json
end CodeGloss
