import CodeGloss.Proofs.Json.Form

/-! # Reading the strings of the grammar

A written string is passed over to its closing quote (`skip_text`).  It is read as the text that it
stands for, and if it stands for none, it is refused (`toOption_read_text`).

Here and behind, what is read is told from a refusal only, so that one equation says both.
-/
namespace CodeGloss
namespace Json

open Cursor

/-! ## What is read, whatever the fault -/

section Outcome

variable {ε α β : Type} {r : Except ε α}

@[simp] theorem toOption_ok (a : α) : (.ok a : Except ε α).toOption = some a := rfl

@[simp] theorem toOption_error (e : ε) : (.error e : Except ε α).toOption = none := rfl

theorem toOption_map (f : α → β) (r : Except ε α) : (r.map f).toOption = r.toOption.map f := by
  cases r <;> rfl

theorem toOption_bind (r : Except ε α) (f : α → Except ε β) :
    (r >>= f).toOption = r.toOption.bind fun a => (f a).toOption := by
  cases r <;> rfl

theorem toOption_bind_eq_none (r : Except ε α) {f : α → Except ε β}
    (h : ∀ a, (f a).toOption = none) : (r.bind f).toOption = none := by
  cases r with
  | ok a => exact h a
  | error e => rfl

theorem toOption_eq_some_iff {a : α} : r.toOption = some a ↔ r = .ok a := by
  cases r <;> simp

end Outcome

/-! ## Passing over -/

theorem hexValue?_char (d : HexDigit) : StringLiteral.hexValue? d.char = some d.value.val := by
  have hall : ∀ (v : Fin 16) (b : Bool),
      StringLiteral.hexValue? (HexDigit.char ⟨v, b⟩) = some v.val := by decide
  exact hall d.value d.capital

theorem simpleEscape?_of_mem {letter c : Char} (h : (letter, c) ∈ shortEscapes) :
    StringLiteral.simpleEscape? letter = some c := by
  have hall : ∀ e ∈ shortEscapes, StringLiteral.simpleEscape? e.1 = some e.2 := by decide
  exact hall (letter, c) h

theorem ne_of_mem_shortEscapes {letter c : Char} (h : (letter, c) ∈ shortEscapes) :
    letter ≠ 'u' := by
  rintro rfl
  cases simpleEscape?_of_mem h

theorem isControl_of_le {c : Char} (h : ' ' ≤ c) : StringLiteral.isControl c = false := by
  have hle : 0x20 ≤ c.toNat := UInt32.le_iff_toNat_le.mp h
  rw [StringLiteral.isControl, decide_eq_false_iff_not]
  omega

theorem readUnit_digits (a b c d : HexDigit) (rest : Text) (p : Position) :
    StringLiteral.readUnit ⟨a.char :: b.char :: c.char :: d.char :: rest, p⟩ =
      .ok (unitValue a b c d, ⟨rest, p.past [a.char, b.char, c.char, d.char]⟩) := by
  have hunit : StringLiteral.hexUnit? a.char b.char c.char d.char = some (unitValue a b c d) := by
    simp only [StringLiteral.hexUnit?, hexValue?_char, unitValue]
  rw [StringLiteral.readUnit]
  simp only [hunit]
  rfl

namespace StringForm

open StringLiteral

variable {s : StringForm} {t : Text} {steps : Nat}

theorem skipSteps_body (h : s.length < steps) (rest : Text) (p : Position) :
    skipSteps steps ⟨body s ++ '"' :: rest, p⟩ = .ok ⟨rest, p.past (body s ++ ['"'])⟩ := by
  induction s generalizing steps p with
  | nil =>
    obtain ⟨steps, rfl⟩ := Nat.exists_eq_add_one_of_ne_zero (Nat.ne_zero_of_lt h)
    rfl
  | cons part s ih =>
    obtain ⟨steps, rfl⟩ := Nat.exists_eq_add_one_of_ne_zero (Nat.ne_zero_of_lt h)
    have hlater := ih (Nat.lt_of_succ_lt_succ h)
    rw [body, List.flatMap_cons, List.append_assoc, ← body]
    cases part with
    | plain c hc =>
      rw [StringPart.text, List.singleton_append, skipSteps, next?_mk_cons]
      simp only [if_neg hc.2.1, if_neg hc.2.2, isControl_of_le hc.1, Bool.false_eq_true, if_false,
        advance_mk_cons, hlater]
      rfl
    | escape letter c hc =>
      have hescape : skipEscape ⟨letter :: (body s ++ '"' :: rest), p.behind '\\'⟩ =
          .ok ⟨body s ++ '"' :: rest, (p.behind '\\').behind letter⟩ := by
        rw [skipEscape, next?_mk_cons]
        simp only [if_neg (ne_of_mem_shortEscapes hc), simpleEscape?_of_mem hc, Option.isSome_some,
          if_true, advance_mk_cons]
      rw [StringPart.text, List.cons_append, List.singleton_append, skipSteps, next?_mk_cons]
      simp only [advance_mk_cons, hescape, bind, Except.bind, hlater]
      rfl
    | unit a b c d =>
      have hescape : skipEscape ⟨'u' :: a.char :: b.char :: c.char :: d.char ::
          (body s ++ '"' :: rest), p.behind '\\'⟩ = .ok ⟨body s ++ '"' :: rest,
            (p.behind '\\').past ['u', a.char, b.char, c.char, d.char]⟩ := by
        rw [skipEscape, next?_mk_cons]
        simp only [if_true, advance_mk_cons, readUnit_digits]
        rfl
      simp only [StringPart.text, List.cons_append, List.nil_append]
      rw [skipSteps, next?_mk_cons]
      simp only [advance_mk_cons, hescape, bind, Except.bind, hlater]
      rfl

theorem length_le_body (s : StringForm) : s.length ≤ (body s).length := by
  induction s with
  | nil => exact Nat.le_refl 0
  | cons part s ih =>
    have hpos : 0 < part.text.length := by cases part <;> exact Nat.succ_pos _
    rw [body, List.flatMap_cons, List.length_append, List.length_cons, ← body]
    omega

/-- **A string is passed over** from behind its first quote on. -/
theorem skip_text (s : StringForm) (rest : Text) (p : Position) :
    skip (advance ⟨s.text ++ rest, p⟩) = .ok ⟨rest, p.past s.text⟩ := by
  have hsteps : s.length < (body s ++ '"' :: rest).length + 1 := by
    have hlength := length_le_body s
    rw [List.length_append]
    omega
  rw [text, List.cons_append, List.append_assoc, List.singleton_append, advance_mk_cons, skip,
    skipSteps_body hsteps, Position.past_cons]

/-! ## What a string stands for -/

section Read

/-- One step reads a character that stands for itself. -/
theorem readSteps_plain {c : Char} (hc : ' ' ≤ c ∧ c ≠ '"' ∧ c ≠ '\\') (rest : Text)
    (p : Position) :
    readSteps (steps + 1) ⟨c :: rest, p⟩ =
      (readSteps steps ⟨rest, p.behind c⟩).map fun (t, cur) => (c :: t, cur) := by
  rw [readSteps, next?_mk_cons]
  simp only [if_neg hc.2.1, if_neg hc.2.2, isControl_of_le hc.1, Bool.false_eq_true, if_false,
    advance_mk_cons]
  rfl

/-- One step reads an escape. -/
theorem readSteps_escape (code : Text) (p : Position) :
    readSteps (steps + 1) ⟨'\\' :: code, p⟩ =
      readEscape ⟨code, p.behind '\\'⟩ >>= fun (c, cur) =>
        (readSteps steps cur).map fun (t, cur) => (c :: t, cur) := by
  have hquote : ¬ '\\' = '"' := by decide
  rw [readSteps, next?_mk_cons]
  simp only [if_neg hquote, if_true, advance_mk_cons]
  rfl

variable {a b c d : HexDigit}

theorem body_unit (s : StringForm) (rest : Text) :
    body (.unit a b c d :: s) ++ rest =
      '\\' :: 'u' :: a.char :: b.char :: c.char :: d.char :: (body s ++ rest) :=
  rfl

theorem readEscape_unit (rest : Text) (p : Position) :
    readEscape ⟨'u' :: a.char :: b.char :: c.char :: d.char :: rest, p⟩ =
      let cur : Cursor := ⟨rest, p.past ['u', a.char, b.char, c.char, d.char]⟩
      if isTrailing (unitValue a b c d) then cur.faultHere .loneSurrogate
      else if isLeading (unitValue a b c d) then do
        let cur ← expectOfPair '\\' cur
        let cur ← expectOfPair 'u' cur
        let (second, cur) ← readUnit cur
        if isTrailing second then return (pairedChar (unitValue a b c d) second, cur)
        else cur.faultHere .loneSurrogate
      else .ok (Char.ofNat (unitValue a b c d), cur) := by
  rw [readEscape, next?_mk_cons]
  simp only [if_true, advance_mk_cons, readNumeric, readUnit_digits]
  rfl

/-- Behind the first half of a character, only a unit can go on. -/
theorem toOption_expectOfPair {α : Type} (hs : ∀ a b c d later, s ≠ .unit a b c d :: later)
    (rest : Text) (p : Position) (next : Cursor → Except Fault α) :
    (expectOfPair '\\' ⟨body s ++ '"' :: rest, p⟩ >>= fun cur =>
      expectOfPair 'u' cur >>= next).toOption = none := by
  cases s with
  | nil => rfl
  | cons part s =>
    rw [body, List.flatMap_cons]
    cases part with
    | plain c hc =>
      rw [StringPart.text, expectOfPair, List.append_assoc, List.singleton_append, next?_mk_cons]
      simp only [if_neg hc.2.2]
      rfl
    | escape letter c hc =>
      have hletter : ¬ letter = 'u' := ne_of_mem_shortEscapes hc
      simp only [StringPart.text, expectOfPair, List.cons_append, List.nil_append, next?_mk_cons,
        advance_mk_cons, if_true, if_neg hletter, bind, Except.bind]
      rfl
    | unit a b c d => exact absurd rfl (hs a b c d s)

theorem toOption_readSteps_body (h : s.length < steps) (rest : Text) (p : Position) :
    (readSteps steps ⟨body s ++ '"' :: rest, p⟩).toOption =
      (meaning? s).map (·, ⟨rest, p.past (body s ++ ['"'])⟩) := by
  fun_induction meaning? s generalizing steps p with
  | case1 =>
    obtain ⟨steps, rfl⟩ := Nat.exists_eq_add_one_of_ne_zero (Nat.ne_zero_of_lt h)
    rfl
  | case2 c hc later ih =>
    obtain ⟨steps, rfl⟩ := Nat.exists_eq_add_one_of_ne_zero (Nat.ne_zero_of_lt h)
    rw [body, List.flatMap_cons, StringPart.text, List.append_assoc, List.singleton_append,
      readSteps_plain hc, toOption_map, ← body, ih (Nat.lt_of_succ_lt_succ h)]
    cases meaning? later <;> rfl
  | case3 letter c hc later ih =>
    obtain ⟨steps, rfl⟩ := Nat.exists_eq_add_one_of_ne_zero (Nat.ne_zero_of_lt h)
    have hread := readEscape_simple (ne_of_mem_shortEscapes hc) (simpleEscape?_of_mem hc)
      (body later ++ '"' :: rest) (p.behind '\\')
    rw [body, List.flatMap_cons, StringPart.text, ← body]
    simp only [List.cons_append, List.nil_append, readSteps_escape, hread]
    rw [toOption_bind, toOption_ok, Option.bind_some, toOption_map, ih (Nat.lt_of_succ_lt_succ h)]
    cases meaning? later <;> rfl
  | case4 a b c d later htrailing =>
    obtain ⟨steps, rfl⟩ := Nat.exists_eq_add_one_of_ne_zero (Nat.ne_zero_of_lt h)
    rw [body_unit, readSteps_escape, readEscape_unit]
    simp only [if_pos htrailing]
    rfl
  | case5 a b c d htrailing hleading a' b' c' d' later hpaired ih =>
    obtain ⟨steps, rfl⟩ := Nat.exists_eq_add_one_of_ne_zero (Nat.ne_zero_of_lt h)
    have hsteps : later.length < steps := Nat.lt_of_succ_lt (Nat.lt_of_succ_lt_succ h)
    rw [body_unit, readSteps_escape, readEscape_unit]
    simp only [if_neg htrailing, if_pos hleading, body_unit, expectOfPair, next?_mk_cons, if_true,
      advance_mk_cons, bind, Except.bind, readUnit_digits, if_pos hpaired, pure, Except.pure]
    rw [toOption_map, ih hsteps]
    cases meaning? later <;> rfl
  | case6 a b c d htrailing hleading a' b' c' d' later hpaired =>
    obtain ⟨steps, rfl⟩ := Nat.exists_eq_add_one_of_ne_zero (Nat.ne_zero_of_lt h)
    rw [body_unit, readSteps_escape, readEscape_unit]
    simp only [if_neg htrailing, if_pos hleading, body_unit, expectOfPair, next?_mk_cons, if_true,
      advance_mk_cons, bind, Except.bind, readUnit_digits, if_neg hpaired]
    rfl
  | case7 a b c d later htrailing hleading hlater =>
    obtain ⟨steps, rfl⟩ := Nat.exists_eq_add_one_of_ne_zero (Nat.ne_zero_of_lt h)
    rw [body_unit, readSteps_escape, readEscape_unit]
    simp only [if_neg htrailing, if_pos hleading]
    rw [toOption_bind, toOption_expectOfPair hlater]
    rfl
  | case8 a b c d later htrailing hleading ih =>
    obtain ⟨steps, rfl⟩ := Nat.exists_eq_add_one_of_ne_zero (Nat.ne_zero_of_lt h)
    rw [body_unit, readSteps_escape, readEscape_unit]
    simp only [if_neg htrailing, if_neg hleading, bind, Except.bind]
    rw [toOption_map, ih (Nat.lt_of_succ_lt_succ h)]
    cases meaning? later <;> rfl

end Read

/-- **A string is read as the text that it stands for**, from behind its first quote on. -/
theorem toOption_read_text (s : StringForm) (rest : Text) (p : Position) :
    (read (advance ⟨s.text ++ rest, p⟩)).toOption =
      (meaning? s).map (·, ⟨rest, p.past s.text⟩) := by
  have hsteps : s.length < (body s ++ '"' :: rest).length + 1 := by
    have hlength := length_le_body s
    rw [List.length_append]
    omega
  rw [text, List.cons_append, List.append_assoc, List.singleton_append, advance_mk_cons,
    StringLiteral.read, toOption_readSteps_body hsteps, Position.past_cons]

/-! ## A string for every text -/

/-- A part that stands for a character: the character itself, or its number if it may not stand for
itself. -/
def partOf (c : Char) : StringPart :=
  if h : ' ' ≤ c ∧ c ≠ '"' ∧ c ≠ '\\' then .plain c h
  else .unit ⟨0, false⟩ ⟨0, false⟩ ⟨Fin.ofNat 16 (c.toNat / 16), false⟩ ⟨Fin.ofNat 16 c.toNat, false⟩

theorem toNat_lt_of_not_plain {c : Char} (h : ¬ (' ' ≤ c ∧ c ≠ '"' ∧ c ≠ '\\')) :
    c.toNat < 256 := by
  by_cases hspace : ' ' ≤ c
  · have hmark : c = '"' ∨ c = '\\' := by
      by_cases hquote : c = '"'
      · exact Or.inl hquote
      · exact Or.inr (Decidable.byContradiction fun hback => h ⟨hspace, hquote, hback⟩)
    rcases hmark with rfl | rfl <;> decide
  · have hlt : c.toNat < 0x20 := UInt32.lt_iff_toNat_lt.mp (Char.not_le.mp hspace)
    omega

theorem unitValue_of_lt {n : Nat} (h : n < 256) :
    unitValue ⟨0, false⟩ ⟨0, false⟩ ⟨Fin.ofNat 16 (n / 16), false⟩ ⟨Fin.ofNat 16 n, false⟩ = n := by
  simp only [unitValue, Fin.val_ofNat, Fin.val_zero]
  omega

theorem not_half_of_lt {n : Nat} (h : n < 256) : isTrailing n = false ∧ isLeading n = false := by
  simp only [isTrailing, isLeading, Bool.and_eq_false_imp, decide_eq_true_eq,
    decide_eq_false_iff_not]
  omega

/-- A string that stands for the text. -/
def ofText (t : Text) : StringForm :=
  t.map partOf

/-- **Every text is written by some string.** -/
theorem meaning?_ofText (t : Text) : meaning? (ofText t) = some t := by
  induction t with
  | nil => rfl
  | cons c t ih =>
    rw [ofText, List.map_cons, ← ofText, partOf]
    split
    next h => rw [meaning?, ih]; rfl
    next h =>
      have hlt := toNat_lt_of_not_plain h
      have hchar : Char.ofNat c.toNat = c := Char.ofNat_toNat c
      unfold meaning?
      simp only [unitValue_of_lt hlt, not_half_of_lt hlt, Bool.false_eq_true, if_false, hchar, ih]
      rfl

end StringForm
end Json
end CodeGloss
