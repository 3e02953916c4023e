/-! # Sets of characters

A set of characters is given by closed ranges of code points in increasing order, the form in which
the properties of characters are published.  Looking a character up stops at the first range that
begins above it.
-/

namespace CodeGloss

/-- A set of characters, as closed ranges of code points in increasing order. -/
structure CharSet where
  /-- The ranges, each with its first and its last code point. -/
  ranges : List (Nat × Nat)

namespace CharSet

/-- Whether a code point lies in one of the ranges. -/
def covers : List (Nat × Nat) → Nat → Bool
  | [], _ => false
  | (first, last) :: later, n => if n < first then false else decide (n ≤ last) || covers later n

/-- Whether the set has the character. -/
def contains (s : CharSet) (c : Char) : Bool :=
  covers s.ranges c.toNat

/-- A code point that is found lies in a range of the list. -/
theorem exists_of_covers {rs : List (Nat × Nat)} {n : Nat} (h : covers rs n = true) :
    ∃ r ∈ rs, r.1 ≤ n ∧ n ≤ r.2 := by
  induction rs with
  | nil => simp [covers] at h
  | cons r later ih =>
    obtain ⟨first, last⟩ := r
    by_cases hn : n < first
    · simp [covers, hn] at h
    · by_cases hl : n ≤ last
      · exact ⟨(first, last), List.mem_cons_self, by omega, hl⟩
      · have hlater : covers later n = true := by simpa [covers, hn, hl] using h
        obtain ⟨r, hr, hb⟩ := ih hlater
        exact ⟨r, List.mem_cons_of_mem _ hr, hb⟩

/-- If one set has no code point of the ranges of the other, no character is in both. -/
theorem contains_eq_false_of_outside {s s' : CharSet} {c : Char}
    (h : ∀ r ∈ s.ranges, ∀ k < r.2 + 1 - r.1, covers s'.ranges (r.1 + k) = false)
    (hc : s.contains c = true) : s'.contains c = false := by
  obtain ⟨r, hr, hfirst, hlast⟩ := exists_of_covers hc
  have houtside := h r hr (c.toNat - r.1) (by omega)
  rwa [Nat.add_sub_cancel' hfirst] at houtside

end CharSet
end CodeGloss
