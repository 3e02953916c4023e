import CodeGloss.Text.Basic
import CodeGloss.Text.Quoted.Table

/-! # Quotations in messages

A message quotes a text between double quotes.  Quotes and backslashes within it are escaped, common
controls have an escape of their own, and any other character that could not be seen is written by
its code point.
-/

namespace CodeGloss
namespace Text

/-- The hexadecimal digits of a number. -/
def hexadecimal (n : Nat) : Text :=
  Nat.toDigits 16 n

/-- A character as it stands in a quotation. -/
def quoteChar (c : Char) : Text :=
  if c = '"' || c = '\\' then ['\\', c]
  else if c = '\t' then "\\t".toList
  else if c = '\n' then "\\n".toList
  else if c = '\r' then "\\r".toList
  else if c.toNat = 0 then "\\0".toList
  else if unseen.contains c then "\\u".toList ++ '\x7b' :: hexadecimal c.toNat ++ ['\x7d']
  else [c]

/-- The text between double quotes. -/
def quoted (t : Text) : Text :=
  '"' :: t.flatMap quoteChar ++ ['"']

end Text
end CodeGloss
