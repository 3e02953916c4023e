import CodeGloss.Proofs.Json.Skip

/-! # What written values are read as

A codec is **uniform** if it reads all texts of a form alike: whether the form is read at all, and as
what, depends neither on the space between its tokens nor on what stands around it.  The form then
has a meaning for the codec (`Codec.meaning?`), and a document is read as what its form means
(`Uniform.parse_document`).

Flags and numbers of 64 bits are uniform here; records are in the module behind.
-/
namespace CodeGloss
namespace Json

open Cursor

variable {α : Type} {codec : Codec α} {f : Form} {t : Text}

/-! ## Meanings -/

namespace Codec

/-- What the codec reads a form as, if it reads it: the form is written out without space, as a text
by itself. -/
def meaning? (codec : Codec α) (f : Form) : Option α :=
  (codec.parse (f.spaced [])).toOption

/-- The codec reads the texts of a form as the function says, whatever stands around them. -/
def ReadsBy (codec : Codec α) (m : Form → Option α) : Prop :=
  ∀ ⦃f : Form⦄ ⦃t : Text⦄, f.Spelled t → ∀ ⦃space rest : Text⦄, IsSpace space →
    Numeral.Ends rest → ∀ p : Position,
      (codec.read ⟨space ++ (t ++ rest), p⟩).toOption =
        (m f).map (·, ⟨rest, p.past (space ++ t)⟩)

/-- **The codec reads all texts of a form alike.** -/
def Uniform (codec : Codec α) : Prop :=
  codec.ReadsBy codec.meaning?

theorem ReadsBy.parse_document {m : Form → Option α} (h : codec.ReadsBy m) (ht : f.Document t) :
    (codec.parse t).toOption = m f := by
  obtain ⟨before, written, behind, hbefore, hwritten, hbehind, rfl⟩ := ht
  have hread := h hwritten hbefore (ends_of_isSpace hbehind) {}
  rw [parse, toOption_bind, hread]
  cases m f with
  | none => rfl
  | some a => simp only [Option.map_some, Option.bind_some, skipSpace_of_isSpace hbehind]; rfl

theorem document_compact (f : Form) : f.Document (f.spaced []) := by
  have hnone : IsSpace [] := List.forall_mem_nil _
  simpa using Form.document_spaced hnone f

theorem ReadsBy.meaning?_eq {m : Form → Option α} (h : codec.ReadsBy m) (f : Form) :
    codec.meaning? f = m f :=
  h.parse_document (document_compact f)

theorem ReadsBy.uniform {m : Form → Option α} (h : codec.ReadsBy m) : codec.Uniform := by
  have hmeaning : codec.meaning? = m := funext h.meaning?_eq
  rwa [Uniform, hmeaning]

/-- **A document is read as what its form means**, and refused if that is nothing. -/
theorem Uniform.parse_document (h : codec.Uniform) (ht : f.Document t) :
    (codec.parse t).toOption = codec.meaning? f :=
  ReadsBy.parse_document h ht

/-! ## Flags and numbers -/

/-- The first character of a written value decides how it is read. -/
theorem readFrom_spelled (choose : Char → Cursor → Except Fault (α × Cursor)) (h : f.Spelled t)
    {space : Text} (hspace : IsSpace space) (rest : Text) (p : Position) :
    ∃ c, f.Begins c ∧
      readFrom choose ⟨space ++ (t ++ rest), p⟩ = choose c ⟨t ++ rest, p.past space⟩ := by
  obtain ⟨c, later, rfl, hc⟩ := h.exists_eq_cons
  exact ⟨c, hc, readFrom_append choose hspace hc.bounds.1 (later ++ rest) p⟩

theorem toOption_readMismatch (expected : Text) (cur : Cursor) :
    (readMismatch expected cur : Except Fault α).toOption = none := by
  fun_cases readMismatch expected cur with
  | case1 | case2 | case3 | case4 | case7 => exact toOption_bind_eq_none _ fun _ => rfl
  | case5 | case6 | case8 | case9 => rfl

/-- The flag that a form is. -/
def flagOf : Form → Option Bool
  | .flag b => some b
  | _ => none

theorem readsBy_flag : flag.ReadsBy flagOf := by
  intro f t h space rest hspace hrest p
  by_cases hflag : ∃ b, f = .flag b
  · obtain ⟨b, rfl⟩ := hflag
    cases h
    exact congrArg Except.toOption (lawful_flag 0 b hspace hrest p)
  · obtain ⟨c, hc, hread⟩ := readFrom_spelled _ h hspace rest p
    have ht : c ≠ 't' := fun hlead => hflag (hc.exists_eq_flag (Or.inl hlead))
    have hf : c ≠ 'f' := fun hlead => hflag (hc.exists_eq_flag (Or.inr hlead))
    have hnone : flagOf f = none := by
      cases f with
      | flag b => exact absurd ⟨b, rfl⟩ hflag
      | null | number | string | list | object => rfl
    rw [hnone, flag]
    dsimp only
    rw [hread, if_neg ht, if_neg hf]
    exact toOption_readMismatch _ _

/-- What a number is read as, if it is a number of 64 bits. -/
theorem toOption_count (r : Except Fault (Number × Cursor)) :
    (do
      let (n, cur) ← r
      match countOf n with
      | .ok n => .ok (n, cur)
      | .error complaint => cur.complain complaint : Except Fault (UInt64 × Cursor)).toOption =
      NumeralForm.naturalOf r := by
  rcases r with fault | ⟨n, cur⟩
  · rfl
  · cases n <;> rfl

/-- The number of 64 bits that a form is. -/
def countOfForm : Form → Option UInt64
  | .number n => n.natural?
  | _ => none

theorem readsBy_count : count.ReadsBy countOfForm := by
  intro f t h space rest hspace hrest p
  obtain ⟨c, hc, hread⟩ := readFrom_spelled _ h hspace rest p
  rw [count]
  dsimp only
  rw [hread]
  by_cases hnumber : ∃ n, f = .number n
  · obtain ⟨n, rfl⟩ := hnumber
    have hnumeral : (decide (c = '-') || c.isDigit) = true := by simpa [Form.Begins] using hc
    cases h
    rw [if_pos hnumeral, Position.past_append]
    exact (toOption_count _).trans (n.naturalOf_read hrest (p.past space))
  · have hnumeral : ¬ (decide (c = '-') || c.isDigit) = true := by
      rw [Bool.or_eq_true, decide_eq_true_eq]
      exact fun hlead => hnumber (hc.exists_eq_number hlead)
    have hnone : countOfForm f = none := by
      cases f with
      | number n => exact absurd ⟨n, rfl⟩ hnumber
      | null | flag | string | list | object => rfl
    rw [hnone, if_neg hnumeral]
    exact toOption_readMismatch _ _

end Codec
end Json
end CodeGloss
