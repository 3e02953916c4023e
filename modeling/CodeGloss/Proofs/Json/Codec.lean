import CodeGloss.Json.Codec
import CodeGloss.Proofs.Json.Numeral
import CodeGloss.Proofs.Json.StringLiteral

/-! # Codecs that read what they write

A codec is **lawful** if a value is read from its written form, at any depth and behind any space,
and the cursor then stands right behind the form.  What follows is left open but for one thing: a
numeral has no end of its own, so nothing may follow that it could go on with.

The value that stands by itself is then read from its text (`Lawful.parse_render`), and space around
it makes no difference (`Lawful.parse_space_append`).
-/
namespace CodeGloss
namespace Json
namespace Codec

open Text Cursor

variable {α : Type} {codec : Codec α}

/-- The codec reads a text as a value, whatever space stands in front of it and whatever can stand
behind a numeral. -/
def Reads (codec : Codec α) (written : Text) (a : α) : Prop :=
  ∀ {space rest : Text}, IsSpace space → Numeral.Ends rest →
    ∀ p, codec.read ⟨space ++ (written ++ rest), p⟩ = .ok (a, ⟨rest, p.past (space ++ written)⟩)

/-- **A codec reads what it writes**, at any depth. -/
def Lawful (codec : Codec α) : Prop :=
  ∀ (depth : Nat) (a : α), codec.Reads (codec.write depth a) a

/-- Space behind a value does not go on with a numeral. -/
theorem ends_of_isSpace {space : Text} (h : IsSpace space) : Numeral.Ends space := by
  intro c hc
  have hspace : isSpace c = true := h c (List.mem_of_head? hc)
  simp only [isSpace, Bool.or_eq_true, decide_eq_true_eq] at hspace
  rcases hspace with ((rfl | rfl) | rfl) | rfl <;> decide

/-- **A value is read from its written form with space around it.** -/
theorem Lawful.parse_space_append (h : codec.Lawful) (a : α) {space behind : Text}
    (hspace : IsSpace space) (hbehind : IsSpace behind) :
    codec.parse (space ++ (codec.render a ++ behind)) = .ok a := by
  have hread := h 0 a hspace (ends_of_isSpace hbehind) {}
  rw [parse, render, hread]
  simp only [bind, Except.bind, skipSpace_of_isSpace hbehind]
  rfl

theorem Lawful.parse_render (h : codec.Lawful) (a : α) : codec.parse (codec.render a) = .ok a := by
  have hnone : IsSpace [] := List.forall_mem_nil _
  simpa using h.parse_space_append a hnone hnone

/-- The character behind the space decides how the value is read. -/
theorem readFrom_append (choose : Char → Cursor → Except Fault (α × Cursor)) {space : Text}
    (hspace : IsSpace space) {c : Char} (hc : isSpace c = false) (rest : Text) (p : Position) :
    readFrom choose ⟨space ++ c :: rest, p⟩ = choose c ⟨c :: rest, p.past space⟩ := by
  rw [readFrom, skipSpace_append hspace (by simpa using hc)]
  rfl

theorem lawful_flag : flag.Lawful := by
  intro depth b space rest hspace _ p
  rw [Position.past_append]
  cases b with
  | true =>
    have hwrite : flag.write depth true = 't' :: "rue".toList := rfl
    rw [hwrite, List.cons_append, flag]
    dsimp only
    rw [readFrom_append _ hspace (by decide), if_pos rfl, Cursor.advance_mk_cons, expectWord_append]
    rfl
  | false =>
    have hwrite : flag.write depth false = 'f' :: "alse".toList := rfl
    rw [hwrite, List.cons_append, flag]
    dsimp only
    rw [readFrom_append _ hspace (by decide), if_neg (by decide), if_pos rfl,
      Cursor.advance_mk_cons, expectWord_append]
    rfl

theorem isSpace_of_isDigit {c : Char} (h : c.isDigit = true) : isSpace c = false := by
  simp only [isSpace, Bool.or_eq_false_iff, decide_eq_false_iff_not]
  refine ⟨⟨⟨?_, ?_⟩, ?_⟩, ?_⟩ <;> rintro rfl <;> cases h

theorem lawful_count : count.Lawful := by
  intro depth n space rest hspace hrest p
  have hwrite : count.write depth n = decimal64 n := rfl
  have hread := Numeral.read_decimal64 n hrest (p.past space)
  obtain ⟨c, digits, hdecimal⟩ := exists_decimal64_eq_cons n
  have hdigit : c.isDigit = true := isDigit_of_mem_decimal64 (n := n) (by simp [hdecimal])
  rw [hwrite, Position.past_append]
  rw [hdecimal, List.cons_append] at hread ⊢
  rw [count]
  dsimp only
  rw [readFrom_append _ hspace (isSpace_of_isDigit hdigit)]
  simp only [hdigit, Bool.or_true, if_true, hread]
  rfl

/-- A written string is read from its first quote on. -/
theorem readFrom_write (choose : Char → Cursor → Except Fault (α × Cursor)) {space : Text}
    (hspace : IsSpace space) (t rest : Text) (p : Position) :
    readFrom choose ⟨space ++ (StringLiteral.write t ++ rest), p⟩ =
      choose '"' ⟨StringLiteral.write t ++ rest, p.past space⟩ := by
  rw [StringLiteral.write_eq, List.cons_append]
  exact readFrom_append choose hspace (by decide) _ p

theorem lawful_text : text.Lawful := by
  intro depth t space rest hspace _ p
  have hwrite : text.write depth t = StringLiteral.write t := rfl
  rw [hwrite, Position.past_append, text]
  dsimp only
  rw [readFrom_write _ hspace, if_pos rfl, StringLiteral.read_write]

section Choices

variable {name : α → Text} {all : List α}

/-- A choice is found by its name, if no other one has it. -/
theorem choose_name (hall : ∀ a, a ∈ all) (hname : ∀ {a b}, name a = name b → a = b) (a : α) :
    choose name all (name a) = .ok a := by
  have hfound : (all.find? fun b => name b = name a) = some a := by
    have hsome : (all.find? fun b => name b = name a).isSome :=
      List.find?_isSome.mpr ⟨a, hall a, decide_eq_true rfl⟩
    obtain ⟨b, hb⟩ := Option.isSome_iff_exists.mp hsome
    have hsame : name b = name a := by simpa using List.find?_some hb
    rw [hb, hname hsame]
  rw [choose, hfound]

theorem lawful_choice (hall : ∀ a, a ∈ all) (hname : ∀ {a b}, name a = name b → a = b) :
    (choice name all).Lawful := by
  intro depth a space rest hspace _ p
  have hwrite : (choice name all).write depth a = StringLiteral.write (name a) := rfl
  rw [hwrite, Position.past_append, choice]
  dsimp only
  rw [readFrom_write _ hspace, if_pos rfl, readChoice, StringLiteral.read_write]
  simp only [bind, Except.bind, choose_name hall hname]
  rfl

end Choices

end Codec
end Json
end CodeGloss
