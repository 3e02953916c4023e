/-! # Runs of letters and their other case

Letters that have another case come in runs: within a run every letter has the same distance to its
other form.  Some runs take every code point, some every second one, where small and capital letters
alternate.
-/

namespace CodeGloss

/-- A run of letters with the same distance to their form in the other case. -/
structure CaseRun where
  /-- The first code point of the run. -/
  first : Nat
  /-- The last code point of the run. -/
  last : Nat
  /-- The distance from one letter of the run to the next. -/
  stride : Nat
  /-- The other form of the first letter. -/
  image : Nat

namespace CaseRun

/-- The other form of a code point, by runs in increasing order; none if no run has it. -/
def image? : List CaseRun → Nat → Option Nat
  | [], _ => none
  | r :: later, n =>
    if n < r.first then none
    else if n ≤ r.last then
      if (n - r.first) % r.stride = 0 then some (r.image + (n - r.first)) else none
    else image? later n

/-- An image comes from a run that has the code point. -/
theorem exists_of_image? {rs : List CaseRun} {n m : Nat} (h : image? rs n = some m) :
    ∃ r ∈ rs, r.first ≤ n ∧ n ≤ r.last ∧ m = r.image + (n - r.first) := by
  induction rs with
  | nil => simp [image?] at h
  | cons r later ih =>
    by_cases hf : n < r.first
    · simp [image?, hf] at h
    by_cases hl : n ≤ r.last
    · by_cases hs : (n - r.first) % r.stride = 0
      · have hm : r.image + (n - r.first) = m := by simpa [image?, hf, hl, hs] using h
        exact ⟨r, List.mem_cons_self, by omega, hl, hm.symm⟩
      · simp [image?, hf, hl, hs] at h
    · have hlater : image? later n = some m := by simpa [image?, hf, hl] using h
      obtain ⟨r', hr, hb⟩ := ih hlater
      exact ⟨r', List.mem_cons_of_mem _ hr, hb⟩

end CaseRun
end CodeGloss
