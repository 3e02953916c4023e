import CodeGloss.Text.Decimal
import CodeGloss.Text.Utf8

/-! # What can go wrong with files and input

The reasons why a file cannot be read or written, or an input not be understood, and what users are
told.
-/

namespace CodeGloss

open Text

/-- Why a file or an input cannot be read or written. -/
inductive FileFault
  /-- There is nothing of that name. -/
  | notFound
  /-- A path leads through something that is not a folder. -/
  | notFolder
  /-- A file is wanted where there is a folder. -/
  | isFolder
  /-- A name, or a path, is longer than the system allows. -/
  | nameTooLong
  /-- A path has a null character in it. -/
  | nullInName
  /-- The content is not UTF-8. -/
  | notUtf8
  /-- A line is not UTF-8. -/
  | lineNotUtf8 (fault : Utf8.Fault)
  /-- Any other reason, in the words of the system. -/
  | other (reason : Text)
  deriving DecidableEq, Repr

/-- What users are told of octets that are not UTF-8. -/
def Utf8.Fault.message (f : Utf8.Fault) : Text :=
  match f.size with
  | some n =>
    "invalid utf-8 sequence of ".toList ++ decimal n ++ " bytes from index ".toList ++
      decimal f.index
  | none => "incomplete utf-8 byte sequence from index ".toList ++ decimal f.index

/-- What users are told of a fault. -/
def FileFault.message : FileFault → Text
  | notFound => "No such file or directory (os error 2)".toList
  | notFolder => "Not a directory (os error 20)".toList
  | isFolder => "Is a directory (os error 21)".toList
  | nameTooLong => "File name too long (os error 36)".toList
  | nullInName => "file name contained an unexpected NUL byte".toList
  | notUtf8 => "stream did not contain valid UTF-8".toList
  | lineNotUtf8 fault => fault.message
  | other reason => reason

/-- The text that a content stands for. -/
def textOf (content : List UInt8) : Except FileFault Text :=
  match Utf8.decode content with
  | .ok t => .ok t
  | .error _ => .error .notUtf8

end CodeGloss
