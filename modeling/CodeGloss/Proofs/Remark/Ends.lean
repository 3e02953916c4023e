import CodeGloss.Proofs.Gloss.Names
import CodeGloss.Proofs.Measures.Words
import CodeGloss.Proofs.Phrase.Verbs

/-! # What remarks and glosses end with

A remark begins with a letter, so if there is anything to trim of it, it stands at the end.  The end
of a remark is a fixed word, the name of a class, or the phrase of the name of a function.  Fixed
words and names end with no blank, and a phrase with a verb is trimmed.  A phrase without a verb is
not: it has a space for each underscore that the name ends with (`Phrase.endsBlank_ofName_iff`).

So there are remarks and glosses that end with blanks, and they are those on lines that define a
function by an **open name**, one that ends with an underscore and has no verb to lead it
(`Gloss.trimmed_iff`).
-/
namespace CodeGloss

namespace Text

variable {c : Char} {t : Text}

/-! ## Ends -/

/-- Whether the text ends with a blank. -/
def endsBlank (t : Text) : Bool :=
  t.getLast?.any isBlank

theorem endsBlank_append (s : Text) (ht : t ≠ []) : endsBlank (s ++ t) = endsBlank t := by
  rw [endsBlank, List.getLast?_append_of_ne_nil s ht, endsBlank]

theorem endsBlank_cons (c : Char) (ht : t ≠ []) : endsBlank (c :: t) = endsBlank t :=
  endsBlank_append [c] ht

theorem endsBlank_of_forall (h : ∀ c ∈ t, isBlank c = false) : endsBlank t = false := by
  unfold endsBlank
  cases hlast : t.getLast? with
  | none => rfl
  | some c => exact h c (List.mem_of_getLast? hlast)

theorem trimEnd_eq_self_iff : trimEnd t = t ↔ endsBlank t = false := by
  rcases List.eq_nil_or_concat' t with rfl | ⟨front, c, rfl⟩
  · exact iff_of_true rfl rfl
  · have hend : trimEnd (front ++ [c]) = front ++ [c] ↔ ¬ isBlank c = true := by
      rw [show trimEnd (front ++ [c]) = List.rdropWhile isBlank (front ++ [c]) from rfl,
        List.rdropWhile_eq_self_iff]
      simp
    rw [hend, endsBlank_append front (List.cons_ne_nil c []), Bool.not_eq_true]
    rfl

/-- A text that begins with no blank is trimmed at its end only. -/
theorem trim_eq_self_iff_of_begins (h : t.head?.any isBlank = false) :
    trim t = t ↔ endsBlank t = false := by
  cases t with
  | nil => exact iff_of_true rfl rfl
  | cons c rest =>
    have hc : isBlank c = false := h
    rw [trim, trimStart_cons_of_not_blank hc, trimEnd_eq_self_iff]

/-! ## Letters are not blank -/

theorem blanks_outside_letters : ∀ r ∈ blanks.ranges, ∀ k < r.2 + 1 - r.1,
    CharSet.covers letters.ranges (r.1 + k) = false := by
  decide +kernel

theorem isBlank_of_isLetter (h : isLetter c = true) : isBlank c = false := by
  by_contra hblank
  have hletter : isLetter c = false :=
    CharSet.contains_eq_false_of_outside blanks_outside_letters (Bool.of_not_eq_false hblank)
  exact Bool.false_ne_true (hletter.symm.trans h)

theorem lower_ne_nil (c : Char) : lower c ≠ [] := by
  unfold lower
  split
  · exact List.cons_ne_nil _ _
  · split <;> exact List.cons_ne_nil _ _

theorem upper_ne_nil (c : Char) : upper c ≠ [] := by
  have hlong : ∀ entry ∈ longCapitalForms, entry.2 ≠ [] := by decide +kernel
  unfold upper
  split
  · exact List.cons_ne_nil _ _
  · split
    next ns hns =>
      obtain ⟨before, later, htable, -⟩ := List.lookup_eq_some_iff.mp hns
      intro hnil
      exact hlong (c.toNat, ns) (by simp [htable]) (List.map_eq_nil_iff.mp hnil)
    next => exact List.cons_ne_nil _ _

theorem capital_ne_nil (c : Char) : capital c ≠ [] := by
  unfold capital
  split
  next h => exact absurd h (upper_ne_nil c)
  next => exact List.cons_ne_nil _ _

end Text

/-! ## Phrases -/

namespace Phrase

open Text

variable {name t : Text} {afterLetter : Bool}

theorem titledFrom_ne_nil (h : t ≠ []) : titledFrom afterLetter t ≠ [] := by
  cases t with
  | nil => exact absurd rfl h
  | cons c rest =>
    rw [titledFrom]
    split
    · refine List.append_ne_nil_of_left_ne_nil ?_ _
      split
      · exact lower_ne_nil c
      · exact capital_ne_nil c
    · exact List.cons_ne_nil _ _

/-- **Title case does not change whether a text ends with a blank**: it changes letters only, and no
form of a letter has a blank in it. -/
theorem endsBlank_titledFrom (afterLetter : Bool) (t : Text) :
    endsBlank (titledFrom afterLetter t) = endsBlank t := by
  induction t generalizing afterLetter with
  | nil => rfl
  | cons c rest ih =>
    rw [titledFrom]
    by_cases hrest : rest = []
    · subst hrest
      split
      next hletter =>
        have hc : isBlank c = false := isBlank_of_isLetter hletter
        rw [titledFrom, List.append_nil, endsBlank_of_forall (List.forall_mem_singleton.mpr hc)]
        refine endsBlank_of_forall fun x hx => ?_
        have hform : x = c ∨ IsCaseForm x := by
          split at hx
          · exact mem_lower hx
          · exact mem_capital hx
        rcases hform with rfl | hform
        · exact hc
        · exact hform.isBlank_eq_false
      next => rfl
    · rw [endsBlank_cons c hrest]
      split
      · rw [endsBlank_append _ (titledFrom_ne_nil hrest), ih]
      · rw [endsBlank_cons c (titledFrom_ne_nil hrest), ih]

/-- The words of a name end with a space for an underscore at its end. -/
theorem endsBlank_words (name : Text) :
    endsBlank (words name) = name.getLast?.any fun c => c = '_' || isBlank c := by
  rcases List.eq_nil_or_concat' name with rfl | ⟨front, c, rfl⟩
  · rfl
  · have hword : words [c] = [if c = '_' then ' ' else c] := by
      rw [words_cons, spaceBetween_of_not_isUpper rfl]
      rfl
    rw [words_append, hword, ← List.append_assoc, endsBlank_append _ (List.cons_ne_nil _ _),
      List.getLast?_concat]
    by_cases hc : c = '_'
    · subst hc
      decide
    · simp [endsBlank, hc]

theorem words_ne_nil (h : name ≠ []) : words name ≠ [] := by
  intro hnil
  have hlength := length_le_length_words name
  rw [hnil, List.length_nil] at hlength
  exact h (List.length_eq_zero_iff.mp (Nat.le_zero.mp hlength))

theorem ofName_ne_nil (h : name ≠ []) : ofName name ≠ [] := by
  unfold ofName
  split
  next verb hverb =>
    obtain ⟨-, -, -, hfilled, -⟩ := full_shape verb (List.mem_of_find?_eq_some hverb)
    intro hnil
    rw [← List.isEmpty_iff, ← allBlank, allBlank_append, hfilled, Bool.false_and] at hnil
    cases hnil
  next => exact titledFrom_ne_nil (words_ne_nil h)

/-- **A phrase ends with a blank if and only if it has no verb and the name ends with an
underscore.** -/
theorem endsBlank_ofName_iff (hname : ∀ c ∈ name, isWord c = true) :
    endsBlank (ofName name) = true ↔ leadingVerb? name = none ∧ name.getLast? = some '_' := by
  unfold ofName
  cases hverb : leadingVerb? name with
  | some verb =>
    -- with a verb the phrase is trimmed last
    have htrimmed : endsBlank (trim (verb.full ++ ' ' ::
        withCapitals (trim ((dropOctets? verb.short.length (words name)).getD [])))) = false :=
      trimEnd_eq_self_iff.mp (trimEnd_trimEnd _)
    simp [htrimmed]
  | none =>
    simp only [true_and]
    rw [titled, endsBlank_titledFrom, endsBlank_words]
    cases hlast : name.getLast? with
    | none => simp
    | some c =>
      have hc : isBlank c = false := isBlank_of_isWord (hname c (List.mem_of_getLast? hlast))
      simp [hc]

end Phrase

/-! ## Remarks -/

open Text

namespace LineKind

variable {keywords : List String} {line name remark : Text} {kind : LineKind}

theorem definedName?_ne_nil (hkeywords : ∀ k ∈ keywords, Pattern.IsKeyword k)
    (h : definedName? (.definitions keywords) line = some name) : name ≠ [] := by
  rw [definedName?_definitions hkeywords] at h
  obtain ⟨pair, -, rfl⟩ := Option.map_eq_some_iff.mp h
  exact pair.2.word_ne_nil

theorem endsBlank_definedName? {head : Pattern} (h : definedName? head line = some name) :
    endsBlank name = false :=
  endsBlank_of_forall fun _ hc => isBlank_of_isWord (isWord_of_mem_definedName? h hc)

theorem endsBlank_fixedRemarks : ∀ remark ∈ fixedRemarks, endsBlank remark = false := by
  decide

/-- A remark on anything but a function ends with no blank. -/
theorem endsBlank_of_ne_newFunction (hkind : kind ≠ newFunction)
    (h : kind.remark? line = some remark) : endsBlank remark = false := by
  rcases cases_of_remark? h with ⟨opening, -, name, hname, rfl⟩ | ⟨-, hfixed⟩
  · cases kind with
    | newFunction => exact absurd rfl hkind
    | newClass =>
      have hdefined : definedName? (.definitions ["class"]) line = some name := hname
      rw [endsBlank_append opening (definedName?_ne_nil Measures.isKeyword_class hdefined)]
      exact endsBlank_definedName? hdefined
    | _ => cases hname
  · exact endsBlank_fixedRemarks remark hfixed

theorem head?_remark (h : kind.remark? line = some remark) :
    remark ≠ [] ∧ remark.head?.any isBlank = false := by
  have hfixed : ∀ t ∈ openings ++ fixedRemarks, t ≠ [] ∧ t.head?.any isBlank = false := by decide
  rcases cases_of_remark? h with ⟨opening, hopening, name, -, rfl⟩ | ⟨-, hremark⟩
  · obtain ⟨hne, hfilled⟩ := hfixed opening (List.mem_append_left _ hopening)
    refine ⟨List.append_ne_nil_of_left_ne_nil hne name, ?_⟩
    rwa [List.head?_append_of_ne_nil opening hne]
  · exact hfixed remark (List.mem_append_right _ hremark)

/-- The line defines a function by an open name. -/
def DefinesOpenName (line : Text) : Prop :=
  ∃ name, definedName? functionHead line = some name ∧ Phrase.leadingVerb? name = none ∧
    name.getLast? = some '_'

/-- **A remark on a function ends with a blank if and only if the name is open.** -/
theorem endsBlank_newFunction_iff (h : newFunction.remark? line = some remark) :
    endsBlank remark = true ↔ DefinesOpenName line := by
  obtain ⟨name, hname, rfl⟩ := Option.map_eq_some_iff.mp h
  have hne : name ≠ [] := definedName?_ne_nil (by decide) hname
  rw [endsBlank_append _ (Phrase.ofName_ne_nil hne),
    Phrase.endsBlank_ofName_iff fun c hc => isWord_of_mem_definedName? hname hc]
  constructor
  · rintro ⟨hverb, hlast⟩
    exact ⟨name, hname, hverb, hlast⟩
  · rintro ⟨other, hother, hopen⟩
    obtain rfl := Option.some.inj (hother.symm.trans hname)
    exact hopen

end LineKind

namespace Gloss

open LineKind

variable {language : Language} {options : Options} {line remark gloss : Text}

theorem head?_remarkOn? (h : remarkOn? line = some remark) :
    remark ≠ [] ∧ remark.head?.any isBlank = false := by
  obtain ⟨kind, -, hkind⟩ := List.exists_of_findSome?_eq_some h
  exact head?_remark hkind

theorem endsBlank_remark_iff (h : remarkOn? line = some remark) :
    endsBlank remark = true ↔ DefinesOpenName (trim line) := by
  cases hfunction : newFunction.remark? (trim line) with
  | some first =>
    -- this kind is tried first, so the remark is its own
    have hfirst : remarkOn? line = some first := by simp [remarkOn?, LineKind.all, hfunction]
    obtain rfl := Option.some.inj (hfirst.symm.trans h)
    exact endsBlank_newFunction_iff hfunction
  | none =>
    obtain ⟨kind, -, hkind⟩ := List.exists_of_findSome?_eq_some h
    have hother : kind ≠ newFunction := by
      rintro rfl
      rw [hfunction] at hkind
      cases hkind
    rw [endsBlank_of_ne_newFunction hother hkind]
    refine iff_of_false Bool.false_ne_true ?_
    rintro ⟨name, hname, -⟩
    rw [LineKind.remark?, hname] at hfunction
    cases hfunction

/-- **Remarks and glosses end with a blank exactly on lines that define a function by an open
name.**  On every other line the remark is trimmed and the gloss ends with it. -/
theorem trimmed_iff (line : Text) :
    (∀ remark, remarkOn? line = some remark →
        (trim remark = remark ↔ ¬ DefinesOpenName (trim line))) ∧
      ∀ language options gloss, above? language options line = some gloss →
        (trimEnd gloss = gloss ↔ ¬ DefinesOpenName (trim line)) := by
  constructor
  · intro remark h
    rw [trim_eq_self_iff_of_begins (head?_remarkOn? h).2, ← endsBlank_remark_iff h,
      Bool.not_eq_true]
  · intro language options gloss habove
    obtain ⟨remark, hremark, rfl⟩ := exists_of_above? habove
    have h := remarkOn?_of_remark? hremark
    rw [trimEnd_eq_self_iff, endsBlank_append _ (List.cons_ne_nil _ _),
      endsBlank_cons _ (head?_remarkOn? h).1, ← endsBlank_remark_iff h, Bool.not_eq_true]

/-- A name that a verb leads is not open; a name between underscores can be. -/
theorem trimmed_iff_get_init :
    (remarkOn? "def get_(x):".toList = some "Define function: Get".toList ∧
      ¬ DefinesOpenName (trim "def get_(x):".toList)) ∧
    above? .python { indented := true } "\tdef __init__(self):".toList =
        some "\t# Define function:   Init  ".toList ∧
      DefinesOpenName (trim "\tdef __init__(self):".toList) := by
  have hget : remarkOn? "def get_(x):".toList = some "Define function: Get".toList := by
    decide +kernel
  have hinit : above? .python { indented := true } "\tdef __init__(self):".toList =
      some "\t# Define function:   Init  ".toList := by
    decide +kernel
  refine ⟨⟨hget, ((trimmed_iff _).1 _ hget).mp (by decide +kernel)⟩, hinit, ?_⟩
  by_contra hclosed
  exact absurd (((trimmed_iff _).2 _ _ _ hinit).mpr hclosed) (by decide +kernel)

/-- A remark and a gloss that end with a space. -/
theorem remarkOn?_total :
    remarkOn? "def total_():".toList = some "Define function: Total ".toList ∧
      trim "Define function: Total ".toList ≠ "Define function: Total ".toList ∧
      above? .unknown {} "def total_():".toList = some "# Define function: Total ".toList ∧
      trimEnd "# Define function: Total ".toList ≠ "# Define function: Total ".toList := by
  decide +kernel

end Gloss
end CodeGloss
