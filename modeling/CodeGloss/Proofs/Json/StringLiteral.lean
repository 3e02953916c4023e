import CodeGloss.Proofs.Json.Cursor

/-! # Reading written strings

A text is read from its written form (`read_write`), whatever its characters are: a character stands
for itself or is written as an escape, and each escape is read as the character it was written for
(`writeChar_cases`).
-/
namespace CodeGloss
namespace Json
namespace StringLiteral

open Text

/-! ## One character -/

theorem readEscape_simple {letter c : Char} (hletter : letter ≠ 'u')
    (h : simpleEscape? letter = some c) (rest : Text) (p : Position) :
    readEscape ⟨letter :: rest, p⟩ = .ok (c, ⟨rest, p.behind letter⟩) := by
  simp [readEscape, hletter, h]

/-- The digits of a control give its number. -/
theorem hexUnit?_digitChar {n : Nat} (h : n < 0x20) :
    hexUnit? '0' '0' (Nat.digitChar (n / 16)) (Nat.digitChar (n % 16)) = some n := by
  have hall : ∀ n < 0x20,
      hexUnit? '0' '0' (Nat.digitChar (n / 16)) (Nat.digitChar (n % 16)) = some n := by
    decide
  exact hall n h

theorem readEscape_numeric {c : Char} (h : isControl c = true) (rest : Text) (p : Position) :
    readEscape ⟨"u00".toList ++ [Nat.digitChar (c.toNat / 16), Nat.digitChar (c.toNat % 16)] ++ rest,
        p⟩ =
      .ok (c, ⟨rest, p.past ("u00".toList ++
        [Nat.digitChar (c.toNat / 16), Nat.digitChar (c.toNat % 16)])⟩) := by
  have hlt : c.toNat < 0x20 := of_decide_eq_true h
  have htrailing : isTrailing c.toNat = false := by
    rw [isTrailing, Bool.and_eq_false_iff, decide_eq_false_iff_not]
    omega
  have hleading : isLeading c.toNat = false := by
    rw [isLeading, Bool.and_eq_false_iff, decide_eq_false_iff_not]
    omega
  have hunit : readUnit ⟨'0' :: '0' :: Nat.digitChar (c.toNat / 16) ::
      Nat.digitChar (c.toNat % 16) :: rest, p.behind 'u'⟩ =
        .ok (c.toNat, ⟨rest, p.past ("u00".toList ++
          [Nat.digitChar (c.toNat / 16), Nat.digitChar (c.toNat % 16)])⟩) := by
    rw [readUnit]
    simp only [hexUnit?_digitChar hlt]
    rfl
  show readNumeric ⟨'0' :: '0' :: Nat.digitChar (c.toNat / 16) ::
    Nat.digitChar (c.toNat % 16) :: rest, p.behind 'u'⟩ = _
  rw [readNumeric, hunit]
  simp [bind, Except.bind, pure, Except.pure, htrailing, hleading, Char.ofNat_toNat]

/-- **A character stands for itself or is written as an escape that is read as it.** -/
theorem writeChar_cases (c : Char) :
    (writeChar c = [c] ∧ c ≠ '"' ∧ c ≠ '\\' ∧ isControl c = false) ∨
      ∃ code, writeChar c = '\\' :: code ∧
        ∀ rest p, readEscape ⟨code ++ rest, p⟩ = .ok (c, ⟨rest, p.past code⟩) := by
  fun_cases writeChar c with
  | case1 h =>
    right
    refine ⟨[c], rfl, readEscape_simple ?_ ?_⟩
    · rintro rfl
      simp at h
    · simp only [Bool.or_eq_true, decide_eq_true_eq] at h
      rcases h with rfl | rfl <;> rfl
  | case2 _ h =>
    obtain rfl : c = Char.ofNat 8 := by rw [← h, Char.ofNat_toNat]
    exact Or.inr ⟨['b'], rfl, readEscape_simple (by decide) rfl⟩
  | case3 _ _ h =>
    obtain rfl : c = Char.ofNat 12 := by rw [← h, Char.ofNat_toNat]
    exact Or.inr ⟨['f'], rfl, readEscape_simple (by decide) rfl⟩
  | case4 _ _ _ h => exact Or.inr ⟨['n'], rfl, h ▸ readEscape_simple (by decide) rfl⟩
  | case5 _ _ _ _ h => exact Or.inr ⟨['r'], rfl, h ▸ readEscape_simple (by decide) rfl⟩
  | case6 _ _ _ _ _ h => exact Or.inr ⟨['t'], rfl, h ▸ readEscape_simple (by decide) rfl⟩
  | case7 _ _ _ _ _ _ hcontrol =>
    exact Or.inr ⟨_, rfl, readEscape_numeric hcontrol⟩
  | case8 h _ _ _ _ _ hcontrol =>
    simp only [Bool.or_eq_true, decide_eq_true_eq, not_or] at h
    exact Or.inl ⟨rfl, h.1, h.2, by simpa using hcontrol⟩

theorem writeChar_ne_nil (c : Char) : writeChar c ≠ [] := by
  rcases writeChar_cases c with ⟨h, -⟩ | ⟨code, h, -⟩ <;> simp [h]

/-! ## Texts -/

/-- Reading a written character takes one step. -/
theorem readSteps_writeChar (steps : Nat) (c : Char) (rest : Text) (p : Position) :
    readSteps (steps + 1) ⟨writeChar c ++ rest, p⟩ =
      (readSteps steps ⟨rest, p.past (writeChar c)⟩).map fun (t, cur) => (c :: t, cur) := by
  rcases writeChar_cases c with ⟨hwrite, hquote, hescape, hcontrol⟩ | ⟨code, hwrite, hread⟩
  · rw [hwrite, List.singleton_append, readSteps, Cursor.next?_mk_cons]
    simp only [if_neg hquote, if_neg hescape, hcontrol, Bool.false_eq_true, if_false]
    rfl
  · rw [hwrite, List.cons_append, readSteps, Cursor.next?_mk_cons]
    have hquote : ¬ '\\' = '"' := by decide
    simp only [if_neg hquote, if_true, Cursor.advance_mk_cons, hread]
    rfl

theorem readSteps_flatMap {steps : Nat} {t : Text} (h : t.length < steps) (rest : Text)
    (p : Position) :
    readSteps steps ⟨t.flatMap writeChar ++ '"' :: rest, p⟩ =
      .ok (t, ⟨rest, p.past (t.flatMap writeChar ++ ['"'])⟩) := by
  induction t generalizing steps p with
  | nil =>
    obtain ⟨steps, rfl⟩ := Nat.exists_eq_add_one_of_ne_zero (Nat.ne_zero_of_lt h)
    rfl
  | cons c t ih =>
    obtain ⟨steps, rfl⟩ := Nat.exists_eq_add_one_of_ne_zero (Nat.ne_zero_of_lt h)
    rw [List.flatMap_cons, List.append_assoc, readSteps_writeChar, ih (Nat.lt_of_succ_lt_succ h),
      List.append_assoc, Position.past_append p (writeChar c)]
    rfl

theorem length_le_flatMap (t : Text) : t.length ≤ (t.flatMap writeChar).length := by
  induction t with
  | nil => exact Nat.le_refl 0
  | cons c t ih =>
    have hc : 0 < (writeChar c).length := List.length_pos_iff.mpr (writeChar_ne_nil c)
    rw [List.flatMap_cons, List.length_append, List.length_cons]
    omega

theorem write_eq (t : Text) : write t = '"' :: (t.flatMap writeChar ++ ['"']) := rfl

/-- **A text is read from its written form**, from behind the first quote on. -/
theorem read_write (t rest : Text) (p : Position) :
    read (Cursor.advance ⟨write t ++ rest, p⟩) = .ok (t, ⟨rest, p.past (write t)⟩) := by
  have hsteps : t.length < (t.flatMap writeChar ++ '"' :: rest).length + 1 := by
    have hlength := length_le_flatMap t
    rw [List.length_append]
    omega
  rw [write_eq, List.cons_append, List.append_assoc, List.singleton_append,
    Cursor.advance_mk_cons, read, readSteps_flatMap hsteps, Position.past_cons]

end StringLiteral
end Json
end CodeGloss
