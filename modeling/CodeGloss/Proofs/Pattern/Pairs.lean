import Mathlib.Data.List.Basic

/-! # Pairs of neighbours

From a list, pairs of neighbours are taken from the left: whenever a member has a property, it and
the next one are a pair, and no two pairs share a member.  This is how the definitions in a text are
found, where the members are words and the first word of a pair is a keyword.

A pair that is taken can keep the next one from being taken, so in a chain of members with the
property everything shifts if one more comes in front.  But the number of pairs then grows by one at
most and never shrinks (`length_pairs_cons`).  Hence two lists that are put together have all the
pairs of the two, and one more at most (`length_pairs_append`).
-/
namespace CodeGloss

variable {α : Type}

/-- The pairs of neighbours whose first member has the property, taken from the left so that no two
pairs share a member. -/
def pairs (p : α → Bool) : List α → List (α × α)
  | x :: y :: later => if p x then (x, y) :: pairs p later else pairs p (y :: later)
  | _ => []

variable {p : α → Bool}

theorem pairs_cons_cons_of_pos {x : α} (h : p x = true) (y : α) (later : List α) :
    pairs p (x :: y :: later) = (x, y) :: pairs p later := by
  rw [pairs, if_pos h]

theorem pairs_cons_of_neg {x : α} (h : p x = false) (later : List α) :
    pairs p (x :: later) = pairs p later := by
  cases later with
  | nil => rfl
  | cons y later => rw [pairs, h, if_neg Bool.false_ne_true]

/-! ## How many pairs there are -/

/-- **One more member in front gives at most one more pair**, and never fewer. -/
theorem length_pairs_cons (p : α → Bool) (x : α) (xs : List α) :
    (pairs p xs).length ≤ (pairs p (x :: xs)).length ∧
      (pairs p (x :: xs)).length ≤ (pairs p xs).length + 1 := by
  match xs with
  | [] => exact ⟨Nat.zero_le _, Nat.zero_le _⟩
  | y :: later =>
    cases hx : p x with
    | false =>
      rw [pairs_cons_of_neg hx]
      omega
    | true =>
      -- `y` is lost to `x`, and by induction that costs the rest one pair at most
      obtain ⟨hlow, hhigh⟩ := length_pairs_cons p y later
      rw [pairs_cons_cons_of_pos hx, List.length_cons]
      omega

/-- **The pairs of lists that are put together**: all that the lists have, and at most one more, at
the joint. -/
theorem length_pairs_append (p : α → Bool) (xs ys : List α) :
    (pairs p xs).length + (pairs p ys).length ≤ (pairs p (xs ++ ys)).length ∧
      (pairs p (xs ++ ys)).length ≤ (pairs p xs).length + (pairs p ys).length + 1 := by
  fun_induction pairs p xs with
  | case1 x y later hx ih =>
    rw [List.cons_append, List.cons_append, pairs_cons_cons_of_pos hx, List.length_cons,
      List.length_cons]
    omega
  | case2 x y later hx ih =>
    have hx : p x = false := by simpa using hx
    rw [List.cons_append, pairs_cons_of_neg hx]
    exact ih
  | case3 xs hshort =>
    rcases xs with - | ⟨x, - | ⟨y, later⟩⟩
    · simp
    · have hcons := length_pairs_cons p x ys
      simpa using hcons
    · exact absurd rfl (hshort x y later)

/-- The last member is the first of no pair, so its own properties do not matter. -/
theorem length_pairs_concat (p : α → Bool) (xs : List α) (x y : α) :
    (pairs p (xs ++ [x])).length = (pairs p (xs ++ [y])).length := by
  fun_induction pairs p xs with
  | case1 a b later ha ih =>
    rw [List.cons_append, List.cons_append, List.cons_append, List.cons_append,
      pairs_cons_cons_of_pos ha, pairs_cons_cons_of_pos ha, List.length_cons, List.length_cons, ih]
  | case2 a b later ha ih =>
    have ha : p a = false := by simpa using ha
    simp only [List.cons_append, pairs_cons_of_neg ha] at ih ⊢
    exact ih
  | case3 xs hshort =>
    rcases xs with - | ⟨a, - | ⟨b, later⟩⟩
    · rfl
    · cases ha : p a <;> simp [pairs, ha]
    · exact absurd rfl (hshort a b later)

/-! ## The first members of pairs -/

theorem dropLast_sublist_dropLast_cons (x : α) (xs : List α) :
    xs.dropLast.Sublist (x :: xs).dropLast := by
  cases xs with
  | nil => exact List.nil_sublist _
  | cons y later => exact List.sublist_cons_self x _

theorem mem_dropLast_of_mem_pairs {x y : α} {xs : List α} (h : (x, y) ∈ pairs p xs) :
    x ∈ xs.dropLast ∧ p x = true := by
  fun_induction pairs p xs with
  | case1 a b later ha ih =>
    rcases List.mem_cons.mp h with heq | h
    · obtain ⟨rfl, rfl⟩ := Prod.mk.inj heq
      exact ⟨List.mem_cons_self, ha⟩
    · obtain ⟨hmem, hx⟩ := ih h
      have hmem := (dropLast_sublist_dropLast_cons b later).subset hmem
      exact ⟨List.mem_cons_of_mem a hmem, hx⟩
  | case2 a b later ha ih =>
    obtain ⟨hmem, hx⟩ := ih h
    exact ⟨List.mem_cons_of_mem a hmem, hx⟩
  | case3 xs hshort => cases h

/-- The first members of pairs are different members that have the property, and none is the last
one of all. -/
theorem length_pairs_le_countP (p : α → Bool) (xs : List α) :
    (pairs p xs).length ≤ xs.dropLast.countP p := by
  fun_induction pairs p xs with
  | case1 a b later ha ih =>
    have hlater := (dropLast_sublist_dropLast_cons b later).countP_le (p := p)
    rw [List.dropLast_cons_cons, List.countP_cons_of_pos ha, List.length_cons]
    omega
  | case2 a b later ha ih =>
    rw [List.dropLast_cons_cons, List.countP_cons_of_neg ha]
    exact ih
  | case3 xs hshort => exact Nat.zero_le _

/-- There is a pair if some member but the last has the property. -/
theorem pairs_ne_nil {x : α} {xs : List α} (h : x ∈ xs.dropLast) (hx : p x = true) :
    pairs p xs ≠ [] := by
  fun_induction pairs p xs with
  | case1 a b later ha ih => exact List.cons_ne_nil _ _
  | case2 a b later ha ih =>
    rw [List.dropLast_cons_cons] at h
    rcases List.mem_cons.mp h with rfl | h
    · exact absurd hx ha
    · exact ih h
  | case3 xs hshort =>
    rcases xs with - | ⟨a, - | ⟨b, later⟩⟩
    · cases h
    · cases h
    · exact absurd rfl (hshort a b later)

end CodeGloss
