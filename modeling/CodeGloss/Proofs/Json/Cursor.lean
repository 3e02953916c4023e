import CodeGloss.Json.Grammar

/-! # Passing over text

A cursor that has passed over a text stands behind all its characters (`Position.past`).  The parts
of the format pass over what they are made for and stop in front of the first character that they
do not take: space (`skipSpace_append`), a run of characters of one kind (`takeWhile_append`) and a
word (`expectWord_append`).
-/
namespace CodeGloss
namespace Json

open Text

/-- The place behind all characters of a text. -/
def Position.past (p : Position) (t : Text) : Position :=
  t.foldl behind p

namespace Position

@[simp] theorem past_nil (p : Position) : p.past [] = p := rfl

@[simp] theorem past_cons (p : Position) (c : Char) (t : Text) :
    p.past (c :: t) = (p.behind c).past t := rfl

@[simp] theorem past_append (p : Position) (s t : Text) : p.past (s ++ t) = (p.past s).past t :=
  List.foldl_append

end Position

namespace Cursor

@[simp] theorem next?_mk_cons (c : Char) (t : Text) (p : Position) :
    next? ⟨c :: t, p⟩ = some c := rfl

@[simp] theorem advance_mk_cons (c : Char) (t : Text) (p : Position) :
    advance ⟨c :: t, p⟩ = ⟨t, p.behind c⟩ := rfl

/-- A run of characters is taken up to the first one of another kind. -/
theorem takeWhile_append {kind : Char → Bool} {run rest : Text} (hrun : ∀ c ∈ run, kind c = true)
    (hrest : ∀ c ∈ rest.head?, kind c = false) (p : Position) :
    takeWhile kind ⟨run ++ rest, p⟩ = (run, ⟨rest, p.past run⟩) := by
  induction run generalizing p with
  | nil =>
    cases rest with
    | nil => rfl
    | cons c rest => simp [takeWhile, takeWhileFrom, hrest c rfl]
  | cons c run ih =>
    obtain ⟨hc, hrun⟩ := List.forall_mem_cons.mp hrun
    have hlater := ih hrun (p.behind c)
    rw [takeWhile] at hlater
    simp [takeWhile, takeWhileFrom, hc, hlater]

/-- Text that may stand between tokens. -/
def IsSpace (t : Text) : Prop :=
  ∀ c ∈ t, isSpace c = true

theorem skipSpace_append {space rest : Text} (hspace : IsSpace space)
    (hrest : ∀ c ∈ rest.head?, isSpace c = false) (p : Position) :
    skipSpace ⟨space ++ rest, p⟩ = ⟨rest, p.past space⟩ := by
  rw [skipSpace, takeWhile_append hspace hrest]

theorem skipSpace_of_head {rest : Text} (hrest : ∀ c ∈ rest.head?, isSpace c = false)
    (p : Position) : skipSpace ⟨rest, p⟩ = ⟨rest, p⟩ :=
  skipSpace_append (List.forall_mem_nil _) hrest p

theorem skipSpace_of_isSpace {space : Text} (h : IsSpace space) (p : Position) :
    skipSpace ⟨space, p⟩ = ⟨[], p.past space⟩ := by
  have hend : ∀ c ∈ ([] : Text).head?, isSpace c = false := by simp
  simpa using skipSpace_append h hend p

theorem isSpace_replicate (n : Nat) : IsSpace (List.replicate n ' ') := by
  intro c hc
  rw [List.eq_of_mem_replicate hc]
  decide

end Cursor

theorem expectWord_append (word rest : Text) (p : Position) :
    expectWord word ⟨word ++ rest, p⟩ = .ok ⟨rest, p.past word⟩ := by
  induction word generalizing p with
  | nil => rfl
  | cons c word ih =>
    rw [List.cons_append, expectWord, Cursor.next?_mk_cons]
    simp only [if_true]
    exact ih (p.behind c)

end Json
end CodeGloss
