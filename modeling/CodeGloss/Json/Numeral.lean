import CodeGloss.Json.Fault

/-! # Reading numerals

A numeral is an optional minus sign, an integer part without a leading zero, and optionally a
fraction and an exponent.  Its digits are gathered in a 64-bit significand; digits that no longer
fit only move the power of ten (in the integer part) or are left out (in the fraction).
-/

namespace CodeGloss
namespace Json

/-- The value of a decimal digit. -/
def digitValue (c : Char) : Nat :=
  c.toNat - 48

/-- The greatest significand. -/
def maxSignificand : Nat := Nat.pow 2 64 - 1

/-- The greatest exponent that is read. -/
def maxExponent : Nat := Nat.pow 2 31 - 1

/-- Appends digits to a number while it does not exceed `bound`; the digits left over come
second. -/
def absorb (bound : Nat) : Nat → Text → Nat × Text
  | n, [] => (n, [])
  | n, c :: digits =>
    if 10 * n + digitValue c ≤ bound then absorb bound (10 * n + digitValue c) digits
    else (n, c :: digits)

namespace Numeral

/-- The number `significand * 10 ^ power`, read up to the cursor. -/
def finish (minus : Bool) (significand : Nat) (power : Int) (cur : Cursor) :
    Except Fault (Number × Cursor) :=
  match Double.ofDecimal significand power with
  | none => cur.faultHere .numberOutOfRange
  | some x => .ok (.double { x with negative := minus }, cur)

/-- Reads an exponent, from behind its letter. -/
def readExponent (minus : Bool) (significand : Nat) (power : Int) (cur : Cursor) :
    Except Fault (Number × Cursor) :=
  let (down, cur) := match cur.next? with
    | some '+' => (false, cur.advance)
    | some '-' => (true, cur.advance)
    | _ => (false, cur)
  match cur.next? with
  | none => cur.faultHere .endInValue
  | some c =>
    if !c.isDigit then cur.faultNext .invalidNumber
    else
      let (digits, behind) := cur.takeWhile Char.isDigit
      let (exponent, left) := absorb maxExponent 0 digits
      if left.isEmpty then
        finish minus significand (if down then power - exponent else power + exponent) behind
      else if significand != 0 && !down then
        (cur.advanceBy (digits.length - left.length + 1)).faultHere .numberOutOfRange
      else .ok (.double { Double.zero with negative := minus }, behind)

/-- Reads a fraction, from behind its point, and the exponent behind it. -/
def readFraction (minus : Bool) (significand : Nat) (power : Int) (cur : Cursor) :
    Except Fault (Number × Cursor) :=
  let (digits, behind) := cur.takeWhile Char.isDigit
  if digits.isEmpty then
    match cur.next? with
    | none => cur.faultHere .endInValue
    | some _ => cur.faultNext .invalidNumber
  else
    let (significand, left) := absorb maxSignificand significand digits
    let power := power - (digits.length - left.length : Nat)
    match behind.next? with
    | some 'e' | some 'E' => readExponent minus significand power behind.advance
    | _ => finish minus significand power behind

/-- Reads what follows the integer part.  `left` counts the digits of that part that did not fit. -/
def readBehindInteger (minus : Bool) (significand left : Nat) (cur : Cursor) :
    Except Fault (Number × Cursor) :=
  match cur.next? with
  | some '.' => readFraction minus significand left cur.advance
  | some 'e' | some 'E' => readExponent minus significand left cur.advance
  | _ =>
    if left = 0 then .ok (.ofInteger minus significand, cur)
    else finish minus significand left cur

/-- Reads a numeral behind its sign. -/
def readUnsigned (minus : Bool) (cur : Cursor) : Except Fault (Number × Cursor) :=
  match cur.next? with
  | none => cur.faultHere .endInValue
  | some c =>
    if c = '0' then
      let cur := cur.advance
      if cur.next?.any Char.isDigit then cur.faultNext .invalidNumber
      else readBehindInteger minus 0 0 cur
    else if c.isDigit then
      let (digits, cur) := cur.takeWhile Char.isDigit
      let (significand, left) := absorb maxSignificand 0 digits
      readBehindInteger minus significand left.length cur
    else cur.faultNext .invalidNumber

/-- Reads a numeral. -/
def read (cur : Cursor) : Except Fault (Number × Cursor) :=
  match cur.next? with
  | some '-' => readUnsigned true cur.advance
  | _ => readUnsigned false cur

end Numeral
end Json
end CodeGloss
