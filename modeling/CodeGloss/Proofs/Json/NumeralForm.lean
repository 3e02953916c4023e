import CodeGloss.Proofs.Json.Form

/-! # Reading the numerals of the grammar

A written number is passed over to its end (`skip_unsigned`).  It is read as a natural number exactly
if it is digits only and they fit in 64 bits (`naturalOf_read`).
-/
namespace CodeGloss
namespace Json

open Cursor

/-! ## Digits -/

theorem exists_digits_eq_cons (digits : Digits) :
    ∃ c t, digits.val = c :: t ∧ c.isDigit = true := by
  obtain ⟨c, t, hdigits⟩ := List.exists_cons_of_ne_nil digits.2.1
  exact ⟨c, t, hdigits, digits.2.2 c (by simp [hdigits])⟩

theorem next?_digits (digits : Digits) (rest : Text) (p : Position) :
    (next? ⟨digits.val ++ rest, p⟩).any Char.isDigit = true := by
  obtain ⟨c, t, hdigits, hc⟩ := exists_digits_eq_cons digits
  rw [hdigits]
  exact hc

theorem next?_digits_ne (digits : Digits) (rest : Text) (p : Position) {c : Char}
    (hc : c.isDigit = false) : next? ⟨digits.val ++ rest, p⟩ ≠ some c := by
  intro hnext
  have hdigit := next?_digits digits rest p
  rw [hnext, Option.any_some, hc] at hdigit
  cases hdigit

theorem takeWhile_digits (digits : Digits) {rest : Text}
    (hrest : ∀ c ∈ rest.head?, c.isDigit = false) (p : Position) :
    takeWhile Char.isDigit ⟨digits.val ++ rest, p⟩ = (digits.val, ⟨rest, p.past digits.val⟩) :=
  takeWhile_append digits.2.2 hrest p

theorem any_next? {rest : Text} (h : ∀ c ∈ rest.head?, c.isDigit = false) (p : Position) :
    (next? ⟨rest, p⟩).any Char.isDigit = false := by
  rw [Option.any_eq_false]
  intro c hc
  simp [h c hc]

namespace NumeralForm

variable {n : NumeralForm} {rest : Text}

/-- Behind a number there is no digit. -/
theorem head?_ends (h : Numeral.Ends rest) : ∀ c ∈ rest.head?, c.isDigit = false :=
  fun c hc => (h c hc).1

theorem head?_exponent_append (h : Numeral.Ends rest) :
    ∀ c ∈ (n.exponent ++ rest).head?, c.isDigit = false := by
  unfold exponent
  cases n.exponent? with
  | none => exact head?_ends h
  | some e =>
    rintro c ⟨⟩
    rcases e.letter_eq with hletter | hletter <;> rw [hletter] <;> decide

theorem head?_tail_append (h : Numeral.Ends rest) :
    ∀ c ∈ (n.tail ++ rest).head?, c.isDigit = false := by
  unfold tail fraction
  cases n.fraction? with
  | none => exact head?_exponent_append h
  | some digits =>
    rintro c ⟨⟩
    decide

/-! ## Passing over -/

/-- The digits of an exponent are passed over behind the sign. -/
theorem skip_exponent (e : ExponentForm) (h : Numeral.Ends rest) (p : Position) :
    Skip.exponent ⟨e.sign ++ (e.digits.val ++ rest), p⟩ =
      .ok ⟨rest, p.past (e.sign ++ e.digits.val)⟩ := by
  have hdigits (q : Position) := next?_digits e.digits rest q
  have htaken (q : Position) := takeWhile_digits e.digits (head?_ends h) q
  rw [Skip.exponent]
  rcases e.sign_eq with hsign | hsign | hsign
  · rw [hsign, List.nil_append]
    split
    next hnext => exact absurd hnext (next?_digits_ne _ _ _ (by decide))
    next hnext => exact absurd hnext (next?_digits_ne _ _ _ (by decide))
    next =>
      simp only [hdigits, if_true, htaken]
      rfl
  · rw [hsign, List.singleton_append]
    simp only [next?_mk_cons, advance_mk_cons, hdigits, if_true, htaken]
    rfl
  · rw [hsign, List.singleton_append]
    simp only [next?_mk_cons, advance_mk_cons, hdigits, if_true, htaken]
    rfl

/-- Behind a number there is no point and no letter of an exponent. -/
theorem next?_ends_ne (h : Numeral.Ends rest) {c : Char} (hc : c = '.' ∨ c = 'e' ∨ c = 'E')
    (p : Position) : next? ⟨rest, p⟩ ≠ some c := by
  intro hnext
  obtain ⟨-, hpoint, hsmall, hcapital⟩ := h c hnext
  rcases hc with hc | hc | hc
  · exact hpoint hc
  · exact hsmall hc
  · exact hcapital hc

theorem skip_fraction (n : NumeralForm) (digits : Digits) (h : Numeral.Ends rest) (p : Position) :
    Skip.fraction ⟨digits.val ++ (n.exponent ++ rest), p⟩ =
      .ok ⟨rest, p.past (digits.val ++ n.exponent)⟩ := by
  rw [Skip.fraction, if_pos (next?_digits _ _ _), takeWhile_digits _ (head?_exponent_append h),
    Position.past_append]
  unfold exponent
  cases n.exponent? with
  | none =>
    dsimp only [List.nil_append]
    split
    next hnext => exact absurd hnext (next?_ends_ne h (by decide) _)
    next hnext => exact absurd hnext (next?_ends_ne h (by decide) _)
    next => rfl
  | some e =>
    dsimp only
    rw [ExponentForm.text, List.cons_append, List.append_assoc, next?_mk_cons, advance_mk_cons,
      Position.past_cons]
    rcases e.letter_eq with hletter | hletter
    · rw [hletter]
      exact skip_exponent e h _
    · rw [hletter]
      exact skip_exponent e h _

/-- What stands behind the integer part is passed over. -/
theorem skip_tail (n : NumeralForm) (h : Numeral.Ends rest) (p : Position) :
    Skip.behindInteger ⟨n.tail ++ rest, p⟩ = .ok ⟨rest, p.past n.tail⟩ := by
  rw [tail, fraction]
  cases n.fraction? with
  | some digits =>
    rw [List.cons_append, List.cons_append, List.append_assoc, Skip.behindInteger]
    exact skip_fraction n digits h _
  | none =>
    rw [List.nil_append, exponent]
    cases n.exponent? with
    | none =>
      rw [Skip.behindInteger]
      dsimp only [List.nil_append]
      split
      next hnext => exact absurd hnext (next?_ends_ne h (by decide) _)
      next hnext => exact absurd hnext (next?_ends_ne h (by decide) _)
      next hnext => exact absurd hnext (next?_ends_ne h (by decide) _)
      next => rfl
    | some e =>
      dsimp only
      rw [ExponentForm.text, List.cons_append, List.append_assoc, Skip.behindInteger, next?_mk_cons,
        advance_mk_cons, Position.past_cons]
      rcases e.letter_eq with hletter | hletter
      · rw [hletter]
        exact skip_exponent e h _
      · rw [hletter]
        exact skip_exponent e h _

/-- **A number is passed over** from behind its sign on. -/
theorem skip_unsigned (n : NumeralForm) (h : Numeral.Ends rest) (p : Position) :
    Skip.unsigned ⟨n.integer.val ++ (n.tail ++ rest), p⟩ =
      .ok ⟨rest, p.past (n.integer.val ++ n.tail)⟩ := by
  obtain ⟨c, t, hinteger, hc⟩ := exists_digits_eq_cons n.integer
  by_cases hzero : c = '0'
  · have honly : n.integer.val = ['0'] := n.integer_eq (by rw [hinteger, hzero]; rfl)
    have hbehind (q : Position) :
        (next? ⟨n.tail ++ rest, q⟩).any Char.isDigit = false :=
      any_next? (head?_tail_append h) q
    rw [honly, List.singleton_append, Skip.unsigned]
    simp only [next?_mk_cons, advance_mk_cons, hbehind, Bool.false_eq_true, if_false]
    exact skip_tail n h _
  · have htaken := takeWhile_digits n.integer (head?_tail_append (n := n) h) p
    have hnext : next? ⟨n.integer.val ++ (n.tail ++ rest), p⟩ = some c := by
      rw [hinteger]
      rfl
    rw [Skip.unsigned, hnext]
    split
    next hfirst => exact absurd (Option.some.inj hfirst) hzero
    next hfirst =>
      obtain rfl := Option.some.inj hfirst
      rw [if_pos hc, htaken, skip_tail n h, Position.past_append]
    next hfirst => cases hfirst

/-! ## Reading -/

/-- The number of 64 bits that a number is, if it has neither sign nor fraction nor exponent. -/
def natural? (n : NumeralForm) : Option UInt64 :=
  let value := Nat.ofDigitChars 10 n.integer.val 0
  if n.minus = false ∧ n.tail = [] ∧ value < UInt64.size then some value.toUInt64 else none

/-- What was read, if it is a natural number. -/
def naturalOf : Except Fault (Number × Cursor) → Option (UInt64 × Cursor)
  | .ok (.natural k, cur) => some (k, cur)
  | _ => none

theorem naturalOf_finish (minus : Bool) (significand : Nat) (power : Int) (cur : Cursor) :
    naturalOf (Numeral.finish minus significand power cur) = none := by
  unfold Numeral.finish
  split <;> rfl

theorem naturalOf_readExponent (minus : Bool) (significand : Nat) (power : Int) (cur : Cursor) :
    naturalOf (Numeral.readExponent minus significand power cur) = none := by
  fun_cases Numeral.readExponent minus significand power cur with
  | case3 => exact naturalOf_finish ..
  | case1 | case2 | case4 | case5 => rfl

theorem naturalOf_readFraction (minus : Bool) (significand : Nat) (power : Int) (cur : Cursor) :
    naturalOf (Numeral.readFraction minus significand power cur) = none := by
  fun_cases Numeral.readFraction minus significand power cur with
  | case3 | case4 => exact naturalOf_readExponent ..
  | case5 => exact naturalOf_finish ..
  | case1 | case2 => rfl

theorem tail_cases (n : NumeralForm) :
    n.tail = [] ∨ ∃ c t, n.tail = c :: t ∧ (c = '.' ∨ c = 'e' ∨ c = 'E') := by
  unfold tail fraction
  cases n.fraction? with
  | some digits => exact Or.inr ⟨'.', _, rfl, Or.inl rfl⟩
  | none =>
    rw [List.nil_append, exponent]
    cases n.exponent? with
    | none => exact Or.inl rfl
    | some e => exact Or.inr ⟨e.letter, _, rfl, Or.inr e.letter_eq⟩

/-- A natural number has nothing behind its integer part, all of which fits, and no sign. -/
theorem naturalOf_readBehindInteger (n : NumeralForm) (h : Numeral.Ends rest) (minus : Bool)
    (significand left : Nat) (p : Position) :
    naturalOf (Numeral.readBehindInteger minus significand left ⟨n.tail ++ rest, p⟩) =
      if minus = false ∧ n.tail = [] ∧ left = 0 then
        some (significand.toUInt64, ⟨rest, p⟩)
      else none := by
  rcases n.tail_cases with htail | ⟨c, t, htail, hc⟩
  · rw [htail, List.nil_append]
    by_cases hleft : left = 0
    · rw [hleft, Numeral.readBehindInteger_of_ends h]
      cases minus with
      | false => rfl
      | true =>
        rw [if_neg (by simp), Number.ofInteger, if_pos rfl]
        split <;> rfl
    · rw [if_neg (by simp [hleft]), Numeral.readBehindInteger]
      split
      next hnext => exact absurd hnext (next?_ends_ne h (by decide) _)
      next hnext => exact absurd hnext (next?_ends_ne h (by decide) _)
      next hnext => exact absurd hnext (next?_ends_ne h (by decide) _)
      next =>
        rw [if_neg hleft]
        exact naturalOf_finish ..
  · rw [if_neg (by simp [htail]), htail, List.cons_append, Numeral.readBehindInteger,
      next?_mk_cons]
    rcases hc with rfl | rfl | rfl
    · exact naturalOf_readFraction ..
    · exact naturalOf_readExponent ..
    · exact naturalOf_readExponent ..

/-- The integer part is gathered, and reading goes on behind it. -/
theorem readUnsigned_integer (n : NumeralForm) (h : Numeral.Ends rest) (minus : Bool)
    (p : Position) :
    Numeral.readUnsigned minus ⟨n.integer.val ++ (n.tail ++ rest), p⟩ =
      Numeral.readBehindInteger minus (absorb maxSignificand 0 n.integer.val).1
        (absorb maxSignificand 0 n.integer.val).2.length
        ⟨n.tail ++ rest, p.past n.integer.val⟩ := by
  obtain ⟨c, t, hinteger, hc⟩ := exists_digits_eq_cons n.integer
  have hnext : next? ⟨n.integer.val ++ (n.tail ++ rest), p⟩ = some c := by
    rw [hinteger]
    rfl
  by_cases hzero : c = '0'
  · have honly : n.integer.val = ['0'] := n.integer_eq (by rw [hinteger, hzero]; rfl)
    have hbehind (q : Position) : (next? ⟨n.tail ++ rest, q⟩).any Char.isDigit = false :=
      any_next? (head?_tail_append h) q
    rw [honly, List.singleton_append, Numeral.readUnsigned]
    simp only [next?_mk_cons, if_true, advance_mk_cons, hbehind, Bool.false_eq_true, if_false]
    rfl
  · rw [Numeral.readUnsigned, hnext]
    simp only [if_neg hzero, hc, if_true, takeWhile_digits n.integer (head?_tail_append h)]

/-- Digits are all gathered exactly if their value is within the bound. -/
theorem absorb_left_eq_nil_iff {bound k : Nat} (hk : k ≤ bound) (digits : Text) :
    (absorb bound k digits).2 = [] ↔ Nat.ofDigitChars 10 digits k ≤ bound := by
  constructor
  · intro h
    induction digits generalizing k with
    | nil => exact hk
    | cons c digits ih =>
      rw [absorb] at h
      split at h
      next hle =>
        rw [Nat.ofDigitChars_cons]
        exact ih hle h
      next => cases h
  · intro h
    rw [absorb_eq h]

theorem read_text (n : NumeralForm) (h : Numeral.Ends rest) (p : Position) :
    Numeral.read ⟨n.text ++ rest, p⟩ =
      Numeral.readBehindInteger n.minus (absorb maxSignificand 0 n.integer.val).1
        (absorb maxSignificand 0 n.integer.val).2.length
        ⟨n.tail ++ rest, p.past (n.sign ++ n.integer.val)⟩ := by
  rw [text, List.append_assoc, List.append_assoc, Numeral.read, sign]
  cases n.minus with
  | true =>
    rw [if_pos rfl, List.singleton_append]
    exact readUnsigned_integer n h true _
  | false =>
    rw [if_neg Bool.false_ne_true, List.nil_append]
    split
    next hnext => exact absurd hnext (next?_digits_ne _ _ _ (by decide))
    next => exact readUnsigned_integer n h false p

/-- **A number is read as a natural number exactly if it is one**: digits only, which fit. -/
theorem naturalOf_read (n : NumeralForm) (h : Numeral.Ends rest) (p : Position) :
    naturalOf (Numeral.read ⟨n.text ++ rest, p⟩) =
      n.natural?.map (·, ⟨rest, p.past n.text⟩) := by
  have hleft : (absorb maxSignificand 0 n.integer.val).2.length = 0 ↔
      Nat.ofDigitChars 10 n.integer.val 0 < UInt64.size := by
    rw [List.length_eq_zero_iff, absorb_left_eq_nil_iff (Nat.zero_le _)]
    exact Nat.le_sub_one_iff_lt (by decide)
  rw [read_text n h, naturalOf_readBehindInteger n h, natural?]
  simp only [hleft]
  split
  next hnatural =>
    obtain ⟨-, htail, hsize⟩ := hnatural
    have hgathered : absorb maxSignificand 0 n.integer.val =
        (Nat.ofDigitChars 10 n.integer.val 0, []) := absorb_eq (Nat.le_sub_one_of_lt hsize)
    rw [hgathered, text, htail, List.append_nil]
    rfl
  next => rfl

/-- A number of 64 bits in its decimal digits. -/
def ofCount (k : UInt64) : NumeralForm where
  integer := ⟨Text.decimal64 k, Nat.toDigits_ne_nil, fun _ => Text.isDigit_of_mem_decimal64⟩
  integer_eq := by
    intro hhead
    have hzero : k.toNat = 0 :=
      Nat.eq_zero_of_not_pos fun hpos => Text.head?_decimal_ne hpos hhead
    change Text.decimal k.toNat = ['0']
    rw [hzero, Text.decimal_zero]

theorem natural?_ofCount (k : UInt64) : (ofCount k).natural? = some k := by
  have hvalue : Nat.ofDigitChars 10 (Text.decimal64 k) 0 = k.toNat := Nat.ofDigitChars_ten_toDigits
  have hsize : k.toNat < UInt64.size := k.toNat_lt_size
  simp only [natural?, ofCount, hvalue]
  rw [if_pos ⟨trivial, rfl, hsize⟩]
  exact congrArg some k.ofNat_toNat

end NumeralForm
end Json
end CodeGloss
