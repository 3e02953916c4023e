import CodeGloss.Proofs.Json.Cursor
import CodeGloss.Text.Decimal

/-! # Reading decimal numerals

The decimal digits of a number of 64 bits are read as that number (`read_decimal64`), if nothing
stands behind them that a numeral could go on with.  The digits have no leading zero
(`head?_decimal_ne`), so they are read as one integer part, and its significand does not run over
(`absorb_eq`).
-/
namespace CodeGloss

open Text

/-! ## Decimal digits -/

namespace Text

theorem isDigit_of_mem_decimal64 {c : Char} {n : UInt64} (h : c ∈ decimal64 n) :
    c.isDigit = true :=
  Nat.isDigit_of_mem_toDigits (by decide) (by decide) h

theorem decimal_zero : decimal 0 = ['0'] :=
  Nat.toDigits_zero 10

theorem exists_decimal_eq_cons (n : Nat) : ∃ c digits, decimal n = c :: digits :=
  List.exists_cons_of_ne_nil Nat.toDigits_ne_nil

theorem exists_decimal64_eq_cons (n : UInt64) : ∃ c digits, decimal64 n = c :: digits :=
  exists_decimal_eq_cons n.toNat

theorem digitChar_ne_zero {d : Nat} (hpos : 0 < d) (hlt : d < 10) : d.digitChar ≠ '0' := by
  have hall : ∀ d < 10, 0 < d → d.digitChar ≠ '0' := by decide
  exact hall d hlt hpos

/-- A number that is not zero has no leading zero. -/
theorem head?_decimal_ne {n : Nat} (hn : 0 < n) : (decimal n).head? ≠ some '0' := by
  induction n using Nat.strongRecOn with
  | ind n ih =>
    rw [decimal]
    by_cases hlt : n < 10
    · rw [Nat.toDigits_of_lt_base hlt, List.head?_cons]
      exact fun h => digitChar_ne_zero hn hlt (Option.some.inj h)
    · have hfront : (decimal (n / 10)).head? ≠ some '0' := ih (n / 10) (by omega) (by omega)
      obtain ⟨c, digits, hdecimal⟩ := exists_decimal_eq_cons (n / 10)
      rw [hdecimal] at hfront
      rw [decimal] at hdecimal
      rw [Nat.toDigits_of_base_le (by decide) (by omega), hdecimal]
      exact hfront

end Text

namespace Json

/-! ## Gathering digits -/

theorem le_ofDigitChars (digits : Text) (n : Nat) : n ≤ Nat.ofDigitChars 10 digits n := by
  induction digits generalizing n with
  | nil => exact Nat.le_refl n
  | cons c digits ih =>
    rw [Nat.ofDigitChars_cons]
    exact Nat.le_trans (by omega) (ih _)

/-- Digits whose value is within the bound are all gathered. -/
theorem absorb_eq {bound : Nat} {digits : Text} {n : Nat}
    (h : Nat.ofDigitChars 10 digits n ≤ bound) :
    absorb bound n digits = (Nat.ofDigitChars 10 digits n, []) := by
  induction digits generalizing n with
  | nil => rfl
  | cons c digits ih =>
    rw [Nat.ofDigitChars_cons] at h ⊢
    have hfirst : 10 * n + digitValue c ≤ bound := Nat.le_trans (le_ofDigitChars digits _) h
    rw [absorb, if_pos hfirst]
    exact ih h

theorem absorb_decimal {n : Nat} (hn : n < UInt64.size) :
    absorb maxSignificand 0 (decimal n) = (n, []) := by
  have hvalue : Nat.ofDigitChars 10 (decimal n) 0 = n := Nat.ofDigitChars_ten_toDigits
  have hbound : Nat.ofDigitChars 10 (decimal n) 0 ≤ maxSignificand := by
    rw [hvalue]
    exact Nat.le_sub_one_of_lt hn
  rw [absorb_eq hbound, hvalue]

namespace Numeral

/-- What may stand behind an integer: nothing that a numeral could go on with. -/
def Ends (rest : Text) : Prop :=
  ∀ c ∈ rest.head?, c.isDigit = false ∧ c ≠ '.' ∧ c ≠ 'e' ∧ c ≠ 'E'

theorem readBehindInteger_of_ends {rest : Text} (h : Ends rest) (minus : Bool) (n : Nat)
    (p : Position) :
    readBehindInteger minus n 0 ⟨rest, p⟩ = .ok (.ofInteger minus n, ⟨rest, p⟩) := by
  cases rest with
  | nil => rfl
  | cons c rest =>
    obtain ⟨-, hpoint, hlower, hupper⟩ := h c rfl
    rw [readBehindInteger, Cursor.next?_mk_cons]
    split
    next hc => exact absurd (Option.some.inj hc) hpoint
    next hc => exact absurd (Option.some.inj hc) hlower
    next hc => exact absurd (Option.some.inj hc) hupper
    next => rfl

theorem ofInteger_toNat (n : UInt64) : Number.ofInteger false n.toNat = .natural n :=
  congrArg Number.natural n.ofNat_toNat

/-- **Decimal digits are read as their number.** -/
theorem read_decimal64 (n : UInt64) {rest : Text} (h : Ends rest) (p : Position) :
    read ⟨decimal64 n ++ rest, p⟩ = .ok (.natural n, ⟨rest, p.past (decimal64 n)⟩) := by
  obtain ⟨c, digits, hdecimal⟩ := exists_decimal64_eq_cons n
  have hdigit : c.isDigit = true := isDigit_of_mem_decimal64 (n := n) (by simp [hdecimal])
  have hminus : c ≠ '-' := by
    rintro rfl
    cases hdigit
  have hnext : Cursor.next? ⟨decimal64 n ++ rest, p⟩ = some c := by
    rw [hdecimal]
    rfl
  have hunsigned : read ⟨decimal64 n ++ rest, p⟩ = readUnsigned false ⟨decimal64 n ++ rest, p⟩ := by
    rw [read, hnext]
    split
    next hc => exact absurd (Option.some.inj hc) hminus
    next => rfl
  rw [hunsigned]
  by_cases hzero : n.toNat = 0
  · have hbehind : (Cursor.next? ⟨rest, p.behind '0'⟩).any Char.isDigit = false := by
      cases rest with
      | nil => rfl
      | cons c rest => exact (h c rfl).1
    have hvalue : Number.ofInteger false 0 = .natural n := hzero ▸ ofInteger_toNat n
    rw [decimal64, hzero, decimal_zero, readUnsigned]
    simp [hbehind, readBehindInteger_of_ends h, hvalue]
  · have hfirst : c ≠ '0' := by
      have hhead := head?_decimal_ne (Nat.pos_of_ne_zero hzero)
      rw [← decimal64, hdecimal, List.head?_cons] at hhead
      exact fun hc => hhead (hc ▸ rfl)
    have htaken : Cursor.takeWhile Char.isDigit ⟨decimal64 n ++ rest, p⟩ =
        (decimal64 n, ⟨rest, p.past (decimal64 n)⟩) :=
      Cursor.takeWhile_append (fun _ => isDigit_of_mem_decimal64) (fun c hc => (h c hc).1) p
    have hvalue : absorb maxSignificand 0 (decimal64 n) = (n.toNat, []) :=
      absorb_decimal n.toNat_lt_size
    rw [readUnsigned, hnext]
    simp only [if_neg hfirst, hdigit, if_true, htaken, hvalue, List.length_nil,
      readBehindInteger_of_ends h, ofInteger_toNat]

end Numeral
end Json
end CodeGloss
