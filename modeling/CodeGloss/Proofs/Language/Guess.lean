import CodeGloss.Proofs.Pattern.Places

/-! # Which language is guessed

The languages are tried in the order in which they are preferred, and a language takes the lead only
with more evidence than the one that has it.  So at any time the lead is with the first of the
languages tried so far that the snippet gives most evidence of (`Leads`): each step keeps this
(`Leads.better`), and no two languages lead at once (`Leads.eq`).

The lead is with `unknown` at the start, which has no clues and so no evidence.  Hence it is kept
exactly if no clue of any language matches anywhere, and otherwise the guess is the language that
leads among those that can be guessed (`guess_iff_leads`).
-/
namespace CodeGloss
namespace Language

variable {code : Text} {l l' m found : Language} {ls tried : List Language}

/-! ## The language in the lead -/

/-- **The first of the languages that the snippet gives most evidence of**: of those before it there
is less evidence, and of those after it no more. -/
def Leads (code : Text) (ls : List Language) (l : Language) : Prop :=
  ∃ before after, ls = before ++ l :: after ∧
    (∀ m ∈ before, m.evidence code < l.evidence code) ∧
    ∀ m ∈ after, m.evidence code ≤ l.evidence code

theorem Leads.evidence_le (h : Leads code ls l) (hm : m ∈ ls) : m.evidence code ≤ l.evidence code := by
  obtain ⟨before, after, rfl, hbefore, hafter⟩ := h
  rcases List.mem_append.mp hm with hm | hm
  · exact Nat.le_of_lt (hbefore m hm)
  · rcases List.mem_cons.mp hm with rfl | hm
    · exact Nat.le_refl _
    · exact hafter m hm

/-- The language in the lead is the first with as much evidence. -/
theorem Leads.find?_eq (h : Leads code ls l) :
    ls.find? (fun m => decide (l.evidence code ≤ m.evidence code)) = some l := by
  obtain ⟨before, after, hls, hbefore, -⟩ := h
  refine List.find?_eq_some_iff_append.mpr ⟨by simp, before, after, hls, fun m hm => ?_⟩
  simpa using hbefore m hm

/-- There is less evidence of every language in front of the one in the lead. -/
theorem Leads.evidence_lt {front back : List Language} (h : Leads code (front ++ l :: back) l)
    (hl : l ∉ front) (hm : m ∈ front) : m.evidence code < l.evidence code := by
  have hfind := h.find?_eq
  rw [List.find?_append] at hfind
  cases hfront : front.find? (fun m => decide (l.evidence code ≤ m.evidence code)) with
  | some x =>
    rw [hfront] at hfind
    obtain rfl : x = l := Option.some.inj hfind
    exact absurd (List.mem_of_find?_eq_some hfront) hl
  | none => simpa using List.find?_eq_none.mp hfront m hm

/-- **No two languages lead.** -/
theorem Leads.eq (h : Leads code ls l) (h' : Leads code ls l') : l = l' := by
  have hmem (l : Language) (h : Leads code ls l) : l ∈ ls := List.mem_of_find?_eq_some h.find?_eq
  have hevidence : l.evidence code = l'.evidence code :=
    Nat.le_antisymm (h'.evidence_le (hmem l h)) (h.evidence_le (hmem l' h'))
  have hfind := h.find?_eq
  rw [hevidence, h'.find?_eq] at hfind
  exact (Option.some.inj hfind).symm

/-- **A step keeps the lead right**: the next language takes it only with more evidence. -/
theorem Leads.better (h : Leads code tried found) (next : Language) :
    Leads code (tried ++ [next]) (better code found next) := by
  by_cases hless : found.evidence code < next.evidence code
  · rw [Language.better, if_pos hless]
    refine ⟨tried, [], rfl, fun m hm => ?_, by simp⟩
    exact Nat.lt_of_le_of_lt (h.evidence_le hm) hless
  · rw [Language.better, if_neg hless]
    obtain ⟨before, after, rfl, hbefore, hafter⟩ := h
    refine ⟨before, after ++ [next], by simp, hbefore, ?_⟩
    rw [List.forall_mem_append, List.forall_mem_singleton]
    exact ⟨hafter, Nat.not_lt.mp hless⟩

/-- The lead is right after any number of languages. -/
theorem Leads.foldl_better (h : Leads code tried found) (ls : List Language) :
    Leads code (tried ++ ls) (ls.foldl (Language.better code) found) := by
  induction ls generalizing tried found with
  | nil => rwa [List.append_nil]
  | cons next later ih =>
    rw [List.foldl_cons, List.append_cons]
    exact ih (h.better next)

theorem leads_guess (code : Text) : Leads code (unknown :: guessable) (guess code) := by
  have hstart : Leads code [unknown] unknown := ⟨[], [], rfl, by simp, by simp⟩
  exact hstart.foldl_better guessable

/-! ## No evidence -/

theorem evidence_eq_zero_iff :
    l.evidence code = 0 ↔ ∀ clue ∈ l.clues, Pattern.count ⟨[clue]⟩ code = 0 := by
  have hsum : l.evidence code = (l.occurrenceCounts code).sum := rfl
  rw [hsum, List.sum_eq_zero_iff_forall_eq_nat, occurrenceCounts, List.forall_mem_map]

/-- There is no evidence of a language if and only if none of its clues matches anywhere. -/
theorem evidence_eq_zero_iff_not_matches :
    l.evidence code = 0 ↔ ∀ clue ∈ l.clues, ¬ Pattern.Matches ⟨[clue]⟩ code := by
  rw [evidence_eq_zero_iff]
  refine forall₂_congr fun clue hclue => ?_
  have hparted := Pattern.partedByComments_clues l clue hclue
  exact Pattern.count_eq_zero_iff (Pattern.lengthAt_ne_zero hparted)

theorem evidence_unknown (code : Text) : unknown.evidence code = 0 :=
  rfl

/-! ## The guess -/

/-- Behind `unknown` a language leads with evidence only. -/
theorem leads_unknown_cons_iff (hl : l ≠ unknown) :
    Leads code (unknown :: ls) l ↔ 0 < l.evidence code ∧ Leads code ls l := by
  constructor
  · rintro ⟨before, after, hls, hbefore, hafter⟩
    cases before with
    | nil => exact absurd (List.cons.inj hls).1.symm hl
    | cons first before =>
      obtain ⟨rfl, rfl⟩ := List.cons.inj hls
      obtain ⟨hfirst, hbefore⟩ := List.forall_mem_cons.mp hbefore
      exact ⟨evidence_unknown code ▸ hfirst, before, after, rfl, hbefore, hafter⟩
  · rintro ⟨hpos, before, after, rfl, hbefore, hafter⟩
    exact ⟨unknown :: before, after, rfl, List.forall_mem_cons.mpr ⟨hpos, hbefore⟩, hafter⟩

theorem guess_eq_iff (hl : l ≠ unknown) :
    guess code = l ↔ 0 < l.evidence code ∧ Leads code guessable l := by
  rw [← leads_unknown_cons_iff hl]
  constructor
  · rintro rfl
    exact leads_guess code
  · exact (leads_guess code).eq

theorem guess_eq_unknown_iff : guess code = unknown ↔ ∀ l : Language, l.evidence code = 0 := by
  constructor
  · intro h l
    have hmem : l ∈ unknown :: guessable := by cases l <;> decide
    have hle := (leads_guess code).evidence_le hmem
    rw [h, evidence_unknown] at hle
    exact Nat.le_zero.mp hle
  · intro h
    by_contra hne
    have hpos := ((guess_eq_iff hne).mp rfl).1
    rw [h] at hpos
    exact Nat.lt_irrefl 0 hpos

/-- **What is guessed.**  The guess is `unknown` if and only if no clue of any language matches
anywhere in the snippet; otherwise it is the language with evidence that leads among those that can
be guessed: there is more evidence of it than of any language preferred to it, and no less than of
any other. -/
theorem guess_iff_leads (code : Text) :
    (guess code = unknown ↔
        ∀ l : Language, ∀ clue ∈ l.clues, ¬ Pattern.Matches ⟨[clue]⟩ code) ∧
      ∀ l : Language, guess code = l ∧ l ≠ unknown ↔
        0 < l.evidence code ∧ Leads code guessable l := by
  constructor
  · rw [guess_eq_unknown_iff]
    exact forall_congr' fun l => evidence_eq_zero_iff_not_matches
  · intro l
    constructor
    · rintro ⟨hguess, hl⟩
      exact (guess_eq_iff hl).mp hguess
    · rintro ⟨hpos, hleads⟩
      have hl : l ≠ unknown := by
        rintro rfl
        exact absurd hpos (Nat.lt_irrefl 0)
      exact ⟨(guess_eq_iff hl).mpr ⟨hpos, hleads⟩, hl⟩

/-- A public class is as much evidence of C# as of Java, which comes first. -/
theorem guess_iff_leads_public_class :
    let code : Text := "public class Widget {}".toList
    java.evidence code = csharp.evidence code ∧ guess code = java := by
  intro code
  have hpos : 0 < java.evidence code := by decide +kernel
  have hleads : Leads code guessable java :=
    ⟨[python, javascript], [cpp, c, csharp, php, sql], rfl, by decide +kernel, by decide +kernel⟩
  exact ⟨by decide +kernel, (((guess_iff_leads code).2 java).mpr ⟨hpos, hleads⟩).1⟩

end Language
end CodeGloss
