import CodeGloss.Proofs.Pattern.Pairs
import Mathlib.Data.Finset.Preimage
import Mathlib.Order.Bounds.Defs

/-! # Choices of pairs

Pairs of neighbours can be taken in other ways than from the left.  A **choice** of pairs is given
by the places where they begin; no two of them share a member (`IsChoice`).  Taking pairs from the
left is one choice, and there is none with more pairs (`isGreatest_length_pairs`): of the pairs of
a choice at most one has a part in the first pair that is taken, and the others are a choice behind
it.
-/
namespace CodeGloss

variable {α : Type} {p q : α → Bool} {x : α} {xs : List α} {starts : Finset ℕ}

/-- **A choice of disjoint pairs**, by the places of their first members. -/
structure IsChoice (p : α → Bool) (xs : List α) (starts : Finset ℕ) : Prop where
  /-- At each place there is a pair of neighbours, and its first member has the property. -/
  exists_pair : ∀ i ∈ starts, ∃ x y, xs[i]? = some x ∧ xs[i + 1]? = some y ∧ p x = true
  /-- No pair begins with the second member of another one. -/
  disjoint : ∀ i ∈ starts, i + 1 ∉ starts

/-- The sizes of all choices. -/
def choiceSizes (p : α → Bool) (xs : List α) : Set ℕ :=
  {n | ∃ starts, IsChoice p xs starts ∧ starts.card = n}

/-- All pairs of neighbours, in order. -/
def neighbours (xs : List α) : List (α × α) :=
  xs.zip xs.tail

/-- The first pair of neighbours whose first member has the property. -/
def firstPair? (p : α → Bool) (xs : List α) : Option (α × α) :=
  (neighbours xs).find? fun pair => p pair.1

/-! ## Choices behind the first members -/

/-- The places behind the first `k`, counted from there. -/
noncomputable def placesBehind (k : ℕ) (starts : Finset ℕ) : Finset ℕ :=
  starts.preimage (· + k) (add_left_injective k).injOn

theorem mem_placesBehind {i k : ℕ} : i ∈ placesBehind k starts ↔ i + k ∈ starts :=
  Finset.mem_preimage

theorem IsChoice.drop (h : IsChoice p xs starts) (k : ℕ) :
    IsChoice p (xs.drop k) (placesBehind k starts) where
  exists_pair i hi := by
    obtain ⟨x, y, hx, hy, hpx⟩ := h.exists_pair _ (mem_placesBehind.mp hi)
    refine ⟨x, y, ?_, ?_, hpx⟩
    · rw [List.getElem?_drop, Nat.add_comm k i, hx]
    · rw [List.getElem?_drop, show k + (i + 1) = i + k + 1 by omega, hy]
  disjoint i hi hnext := by
    refine h.disjoint _ (mem_placesBehind.mp hi) ?_
    rw [show i + k + 1 = i + 1 + k by omega]
    exact mem_placesBehind.mp hnext

theorem card_le_add_card_placesBehind (k : ℕ) (starts : Finset ℕ) :
    starts.card ≤ (starts.filter (· < k)).card + (placesBehind k starts).card := by
  have hcover : starts ⊆ starts.filter (· < k) ∪ (placesBehind k starts).image (· + k) := by
    intro i hi
    rw [Finset.mem_union, Finset.mem_filter, Finset.mem_image]
    rcases Nat.lt_or_ge i k with hlt | hge
    · exact Or.inl ⟨hi, hlt⟩
    · refine Or.inr ⟨i - k, mem_placesBehind.mpr ?_, by omega⟩
      rwa [Nat.sub_add_cancel hge]
  have hunion := (Finset.card_le_card hcover).trans (Finset.card_union_le _ _)
  have himage := Finset.card_image_le (s := placesBehind k starts) (f := (· + k))
  omega

/-! ## Pairs from the left are most -/

/-- **No choice has more pairs than are taken from the left.** -/
theorem IsChoice.card_le (h : IsChoice p xs starts) : starts.card ≤ (pairs p xs).length := by
  fun_induction pairs p xs generalizing starts with
  | case1 x y later hx ih =>
    -- two of the first three members cannot both begin a pair of the choice
    have hfirst : (starts.filter (· < 2)).card ≤ 1 := by
      refine Finset.card_le_one.mpr fun i hi j hj => ?_
      obtain ⟨hi, hi2⟩ := Finset.mem_filter.mp hi
      obtain ⟨hj, hj2⟩ := Finset.mem_filter.mp hj
      by_contra hne
      rcases Nat.lt_or_ge i j with hlt | hge
      · exact h.disjoint i hi (show i + 1 = j by omega ▸ hj)
      · exact h.disjoint j hj (show j + 1 = i by omega ▸ hi)
    have hrest := ih (h.drop 2)
    have hcard := card_le_add_card_placesBehind 2 starts
    rw [List.length_cons]
    omega
  | case2 x y later hx ih =>
    have hfirst : starts.filter (· < 1) = ∅ := by
      refine Finset.filter_eq_empty_iff.mpr fun i hi hlt => ?_
      obtain ⟨x', y', hx', -, hpx⟩ := h.exists_pair i hi
      obtain rfl : i = 0 := by omega
      obtain rfl := Option.some.inj hx'
      exact hx hpx
    have hrest := ih (h.drop 1)
    have hcard := card_le_add_card_placesBehind 1 starts
    rw [hfirst, Finset.card_empty] at hcard
    omega
  | case3 xs hshort =>
    refine (Finset.card_eq_zero.mpr (Finset.eq_empty_of_forall_notMem fun i hi => ?_)).le
    obtain ⟨x, y, hx, hy, -⟩ := h.exists_pair i hi
    rcases xs with - | ⟨a, - | ⟨b, later⟩⟩
    · cases hx
    · cases hy
    · exact hshort a b later rfl

theorem IsChoice.append (front : List α) (h : IsChoice p xs starts) :
    IsChoice p (front ++ xs) (starts.image (· + front.length)) where
  exists_pair i hi := by
    obtain ⟨j, hj, rfl⟩ := Finset.mem_image.mp hi
    obtain ⟨x, y, hx, hy, hpx⟩ := h.exists_pair j hj
    refine ⟨x, y, ?_, ?_, hpx⟩
    · rw [List.getElem?_append_right (by omega), Nat.add_sub_cancel, hx]
    · rw [List.getElem?_append_right (by omega),
        show j + front.length + 1 - front.length = j + 1 by omega, hy]
  disjoint i hi hnext := by
    obtain ⟨j, hj, rfl⟩ := Finset.mem_image.mp hi
    obtain ⟨j', hj', heq⟩ := Finset.mem_image.mp hnext
    obtain rfl : j' = j + 1 := by omega
    exact h.disjoint j hj hj'

/-- Pairs taken from the left are a choice. -/
theorem exists_isChoice (p : α → Bool) (xs : List α) :
    ∃ starts, IsChoice p xs starts ∧ starts.card = (pairs p xs).length := by
  fun_induction pairs p xs with
  | case1 x y later hx ih =>
    obtain ⟨starts, h, hcard⟩ := ih
    have hbehind := h.append [x, y]
    have hlow {i : ℕ} (hi : i ∈ starts.image (· + [x, y].length)) : 2 ≤ i := by
      obtain ⟨j, -, rfl⟩ := Finset.mem_image.mp hi
      exact Nat.le_add_left 2 j
    have hnew : 0 ∉ starts.image (· + [x, y].length) := fun h0 => absurd (hlow h0) (by omega)
    refine ⟨insert 0 (starts.image (· + [x, y].length)), ⟨fun i hi => ?_, fun i hi hnext => ?_⟩, ?_⟩
    · rcases Finset.mem_insert.mp hi with rfl | hi
      · exact ⟨x, y, rfl, rfl, hx⟩
      · exact hbehind.exists_pair i hi
    · have hnext := (Finset.mem_insert.mp hnext).resolve_left (Nat.succ_ne_zero i)
      rcases Finset.mem_insert.mp hi with rfl | hi
      · exact absurd (hlow hnext) (by omega)
      · exact hbehind.disjoint i hi hnext
    · rw [Finset.card_insert_of_notMem hnew,
        Finset.card_image_of_injective _ (add_left_injective _), hcard, List.length_cons]
  | case2 x y later hx ih =>
    obtain ⟨starts, h, hcard⟩ := ih
    refine ⟨_, h.append [x], ?_⟩
    rw [Finset.card_image_of_injective _ (add_left_injective _), hcard]
  | case3 xs hshort =>
    exact ⟨∅, ⟨fun i hi => absurd hi (Finset.notMem_empty i),
      fun i hi => absurd hi (Finset.notMem_empty i)⟩, rfl⟩

/-- **Pairs taken from the left are the largest choice.** -/
theorem isGreatest_length_pairs (p : α → Bool) (xs : List α) :
    IsGreatest (choiceSizes p xs) (pairs p xs).length := by
  refine ⟨exists_isChoice p xs, ?_⟩
  rintro n ⟨starts, h, rfl⟩
  exact h.card_le

/-! ## The first pair -/

/-- The first pair that is taken is the first one there is. -/
theorem head?_pairs (p : α → Bool) (xs : List α) : (pairs p xs).head? = firstPair? p xs := by
  fun_induction pairs p xs with
  | case1 x y later hx ih => simp [firstPair?, neighbours, hx]
  | case2 x y later hx ih =>
    rw [ih, firstPair?, firstPair?]
    simp [neighbours, hx]
  | case3 xs hshort =>
    rcases xs with - | ⟨a, - | ⟨b, later⟩⟩
    · rfl
    · rfl
    · exact absurd rfl (hshort a b later)

/-- The property matters for members that have a neighbour behind them only. -/
theorem pairs_congr (h : ∀ x ∈ xs.dropLast, p x = q x) : pairs p xs = pairs q xs := by
  fun_induction pairs p xs with
  | case1 x y later hx ih =>
    rw [List.dropLast_cons_cons, List.forall_mem_cons] at h
    have hlater := (dropLast_sublist_dropLast_cons y later).subset
    rw [pairs_cons_cons_of_pos (h.1 ▸ hx), ih fun z hz => h.2 z (hlater hz)]
  | case2 x y later hx ih =>
    rw [List.dropLast_cons_cons, List.forall_mem_cons] at h
    have hqx : q x = false := h.1 ▸ Bool.eq_false_of_not_eq_true hx
    rw [pairs_cons_of_neg hqx, ih h.2]
  | case3 xs hshort =>
    rcases xs with - | ⟨a, - | ⟨b, later⟩⟩
    · rfl
    · rfl
    · exact absurd rfl (hshort a b later)

end CodeGloss
