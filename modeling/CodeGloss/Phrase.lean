import CodeGloss.Text.Blank
import CodeGloss.Text.Letter

/-! # Phrases

The readable form of a name.  Words that run together in the name (`getUserName`, `load_all_rows`)
are set apart; a leading verb such as `calc` is written out (`Calculate`), and what follows it keeps
its letters but for the first of each word; a name without such a verb is put in title case.
-/

namespace CodeGloss
namespace Phrase

open Text

/-- Sets a space between a small ASCII letter and a capital that follows it. -/
def splitCase : Text → Text
  | a :: b :: rest =>
    if a.isLower && b.isUpper then a :: ' ' :: splitCase (b :: rest) else a :: splitCase (b :: rest)
  | t => t

/-- The words of a name, with spaces where the case changes and in place of underscores. -/
def words (name : Text) : Text :=
  (splitCase name).map fun c => if c = '_' then ' ' else c

/-- A verb that names begin with. -/
structure Verb where
  /-- How the verb is spelled at the start of a name, in small letters. -/
  short : Text
  /-- How the verb is written out. -/
  full : Text
  deriving DecidableEq, Repr

/-- The verbs that are written out.  No spelling begins with another one. -/
def verbs : List Verb := [
  ⟨"get".toList, "Get".toList⟩,
  ⟨"set".toList, "Set".toList⟩,
  ⟨"calc".toList, "Calculate".toList⟩,
  ⟨"create".toList, "Create".toList⟩,
  ⟨"delete".toList, "Delete".toList⟩,
  ⟨"update".toList, "Update".toList⟩,
  ⟨"process".toList, "Process".toList⟩,
  ⟨"parse".toList, "Parse".toList⟩]

/-- The verb that a name begins with, in any case. -/
def leadingVerb? (name : Text) : Option Verb :=
  verbs.find? fun v => v.short.isPrefixOf (lowercase name)

/-- The text behind its first `n` octets in UTF-8, if there are so many and they end with a
character. -/
def dropOctets? : Nat → Text → Option Text
  | 0, t => some t
  | _ + 1, [] => none
  | n + 1, c :: rest => if c.utf8Size ≤ n + 1 then dropOctets? (n + 1 - c.utf8Size) rest else none

/-- The text with a capital at the start of every word, where words stand between spaces. -/
def withCapitals (t : Text) : Text :=
  join ' ' <| (split ' ' t).map fun
    | [] => []
    | first :: later => capital first ++ later

/-- Title case behind a character that is a letter or not: a letter behind a letter becomes small,
any other letter a capital. -/
def titledFrom : (afterLetter : Bool) → Text → Text
  | _, [] => []
  | afterLetter, c :: rest =>
    if isLetter c then (if afterLetter then lower c else capital c) ++ titledFrom true rest
    else c :: titledFrom false rest

/-- The text in title case. -/
def titled (t : Text) : Text :=
  titledFrom false t

/-- The readable form of a name. -/
def ofName (name : Text) : Text :=
  match leadingVerb? name with
  | some verb =>
    let remainder := trim ((dropOctets? verb.short.length (words name)).getD [])
    trim (verb.full ++ ' ' :: withCapitals remainder)
  | none => titled (words name)

end Phrase
end CodeGloss
