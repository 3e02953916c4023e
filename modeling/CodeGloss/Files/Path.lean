import CodeGloss.Text.Basic
import CodeGloss.Text.Utf8

/-! # Paths

A path is a text in which slashes separate names.  The names `.` and `..` stand for the folder that
has been reached and for the one above it; a path that begins with a slash starts at the root of the
system, any other in the working folder.
-/

namespace CodeGloss
namespace Path

open Text

/-- The names of a path, in order. -/
def names (path : Text) : List Text :=
  (split '/' path).filter fun name => !name.isEmpty

/-- Whether the path starts at the root. -/
def isRooted (path : Text) : Bool :=
  path.head? = some '/'

/-- Whether the path ends with a slash, and so can only lead to a folder. -/
def wantsFolder (path : Text) : Bool :=
  path.getLast? = some '/'

/-- The name of the folder that has been reached. -/
def here : Text := ".".toList

/-- The name of the folder above the one that has been reached. -/
def up : Text := "..".toList

/-- The octets that a name may have. -/
def maxName : Nat := 255

/-- The octets that a path must stay below. -/
def maxPath : Nat := 4096

/-- Whether a name has more octets than it may have. -/
def isTooLong (name : Text) : Bool :=
  maxName < (Utf8.encode name).length

/-- Whether two paths have the same names in the same order from the same start: slashes at the end,
double slashes and names `.` that are not the first make no difference. -/
def sameNames (a b : Text) : Bool :=
  isRooted a = isRooted b && significant a = significant b
where
  /-- The names that make a difference. -/
  significant (path : Text) : List Text :=
    match names path with
    | [] => []
    | first :: later =>
      (if isRooted path && first = here then [] else [first]) ++ later.filter (· != here)

end Path
end CodeGloss
