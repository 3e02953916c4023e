import CodeGloss.Text.Basic
import CodeGloss.Text.CharSet
import CodeGloss.Text.Letter.CaseTable
import CodeGloss.Text.Letter.Table

/-! # Letters and their case

Letters are the alphabetic characters.  The small or capital form of a character can be several
characters.  Two characters are the *same letter* if folding makes them equal; the folding used here
tells ASCII letters apart from all other characters and nothing else, which is all that a pattern of
ASCII letters needs: apart from the two cases of an ASCII letter only the long s and the Kelvin sign
fold to one.
-/

namespace CodeGloss
namespace Text

/-- Whether the character is alphabetic. -/
def isLetter (c : Char) : Bool :=
  letters.contains c

/-- The small form of a character.  The dotted capital I is the one character whose small form is
two. -/
def lower (c : Char) : Text :=
  if c.toNat = 0x130 then ['i', Char.ofNat 0x307]
  else match CaseRun.image? smallForms c.toNat with
    | some n => [Char.ofNat n]
    | none => [c]

/-- The capital form of a character. -/
def upper (c : Char) : Text :=
  match CaseRun.image? capitalForms c.toNat with
  | some n => [Char.ofNat n]
  | none => match longCapitalForms.lookup c.toNat with
    | some ns => ns.map Char.ofNat
    | none => [c]

/-- The text in small letters, each character taken by itself. -/
def lowercase (t : Text) : Text :=
  t.flatMap lower

/-- The character as the first letter of a capitalised word: of a capital form of several letters
only the first stays a capital, so the sharp s becomes `Ss`. -/
def capital (c : Char) : Text :=
  match upper c with
  | [] => []
  | first :: later => first :: later.flatMap lower

/-- The small form of an ASCII letter for every character that differs from it in case only; any
other character is left as it is. -/
def fold (c : Char) : Char :=
  if c = Char.ofNat 0x17F then 's'
  else if c = Char.ofNat 0x212A then 'k'
  else c.toLower

/-- Whether two characters are equal but for case, one of them being an ASCII character. -/
def sameLetter (a b : Char) : Bool :=
  fold a = fold b

end Text
end CodeGloss
