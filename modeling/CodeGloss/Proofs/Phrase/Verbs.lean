import CodeGloss.Proofs.Phrase.Capitals

/-! # Verbs at the start of names

A name is in one of two cases.  If no verb leads it, its phrase is its words in title case.  If one
does, it is the only one (`eq_of_leads`), and the phrase is the verb written out with the remainder
behind it: what is left of the words when as many characters are dropped as the verb has, trimmed
and with capitals (`ofName_of_leads`).

The remainder is cut off the words, where spaces have come in, and not off the name.
-/
namespace CodeGloss
namespace Phrase

open Text

variable {verb other : Verb} {name rest : Text}

/-! ## The verbs -/

/-- The name begins with the verb, in any case of its letters. -/
def Verb.Leads (verb : Verb) (name : Text) : Prop :=
  verb.short <+: name.map Char.toLower

instance (verb : Verb) (name : Text) : Decidable (verb.Leads name) :=
  inferInstanceAs (Decidable (_ <+: _))

theorem short_all_isLower : ∀ verb ∈ verbs, verb.short.all Char.isLower = true := by decide

theorem isLower_of_mem_short {c : Char} (hverb : verb ∈ verbs) (hc : c ∈ verb.short) :
    c.isLower = true :=
  List.all_eq_true.mp (short_all_isLower verb hverb) c hc

theorem length_short_pos : ∀ verb ∈ verbs, 0 < verb.short.length := by decide

/-- No spelling begins with another one. -/
theorem eq_of_isPrefix_short : ∀ verb ∈ verbs, ∀ other ∈ verbs, verb.short <+: other.short →
    verb = other := by
  decide +kernel

/-- Written out, a verb is still spelled at the start. -/
theorem short_prefix_full : ∀ verb ∈ verbs, verb.short <+: verb.full.map Char.toLower := by
  decide +kernel

/-- Written out, a verb is one word of ASCII letters. -/
theorem full_shape : ∀ verb ∈ verbs, IsAscii verb.full ∧ NoCaseChange verb.full ∧
    '_' ∉ verb.full ∧ allBlank verb.full = false ∧ trimStart verb.full = verb.full ∧
    trimEnd verb.full = verb.full := by
  decide +kernel

/-- The letters that the verb takes of the name. -/
theorem Verb.Leads.map_toLower_take (h : verb.Leads name) :
    (name.take verb.short.length).map Char.toLower = verb.short := by
  rw [List.map_take]
  exact (List.prefix_iff_eq_take.mp h).symm

/-- **At most one verb leads a name.** -/
theorem eq_of_leads (hverb : verb ∈ verbs) (hother : other ∈ verbs) (h : verb.Leads name)
    (h' : other.Leads name) : verb = other := by
  rcases Nat.le_total verb.short.length other.short.length with hle | hle
  · exact eq_of_isPrefix_short verb hverb other hother (List.prefix_of_prefix_length_le h h' hle)
  · exact (eq_of_isPrefix_short other hother verb hverb
      (List.prefix_of_prefix_length_le h' h hle)).symm

theorem leadingVerb?_eq_some_iff (hname : IsAscii name) :
    leadingVerb? name = some verb ↔ verb ∈ verbs ∧ verb.Leads name := by
  have hleads (v : Verb) : v.short.isPrefixOf (lowercase name) = true ↔ v.Leads name := by
    rw [List.isPrefixOf_iff_prefix, lowercase_of_ascii hname, Verb.Leads]
  constructor
  · intro h
    have hprefix := List.find?_some h
    exact ⟨List.mem_of_find?_eq_some h, (hleads verb).mp hprefix⟩
  · rintro ⟨hverb, h⟩
    cases hfound : leadingVerb? name with
    | none => exact absurd ((hleads verb).mpr h) (List.find?_eq_none.mp hfound verb hverb)
    | some other =>
      have hprefix := List.find?_some hfound
      rw [eq_of_leads (List.mem_of_find?_eq_some hfound) hverb ((hleads other).mp hprefix) h]

theorem leadingVerb?_eq_none_iff (hname : IsAscii name) :
    leadingVerb? name = none ↔ ∀ verb ∈ verbs, ¬ verb.Leads name := by
  rw [Option.eq_none_iff_forall_ne_some]
  constructor
  · intro h verb hverb hleads
    exact h verb ((leadingVerb?_eq_some_iff hname).mpr ⟨hverb, hleads⟩)
  · intro h verb hfound
    obtain ⟨hverb, hleads⟩ := (leadingVerb?_eq_some_iff hname).mp hfound
    exact h verb hverb hleads

/-! ## Phrases with a verb and without one -/

/-- The rest of a phrase with a space in front, unless there is none. -/
def spaced (rest : Text) : Text :=
  if rest = [] then [] else ' ' :: rest

/-- What is left of the words of a name when the verb is cut off. -/
def Verb.remainder (verb : Verb) (name : Text) : Text :=
  trim ((words name).drop verb.short.length)

theorem dropOctets?_of_ascii {t : Text} (ht : IsAscii t) {n : Nat} (hn : n ≤ t.length) :
    dropOctets? n t = some (t.drop n) := by
  induction t generalizing n with
  | nil =>
    obtain rfl := Nat.le_zero.mp hn
    rfl
  | cons c t ih =>
    obtain ⟨hc, ht⟩ := isAscii_cons.mp ht
    cases n with
    | zero => rfl
    | succ n =>
      rw [dropOctets?, utf8Size_of_ascii hc, if_pos (by omega), Nat.add_sub_cancel,
        ih ht (Nat.le_of_succ_le_succ hn), List.drop_succ_cons]

theorem isAscii_words (hname : IsAscii name) : IsAscii (words name) := by
  intro c hc
  rcases mem_words hc with rfl | hc
  · decide
  · exact hname c hc

theorem isAscii_remainder (verb : Verb) (hname : IsAscii name) : IsAscii (verb.remainder name) :=
  fun c hc => isAscii_words hname c (List.mem_of_mem_drop (mem_of_mem_trim hc))

theorem length_short_le (h : verb.Leads name) : verb.short.length ≤ name.length := by
  have hlength := h.length_le
  rwa [List.length_map] at hlength

/-- Between a verb and the rest of the phrase nothing is trimmed. -/
theorem trim_full_append (hverb : verb ∈ verbs) (hrest : trim rest = rest) :
    trim (verb.full ++ ' ' :: rest) = verb.full ++ spaced rest := by
  obtain ⟨-, -, -, hfilled, hstart, hend⟩ := full_shape verb hverb
  by_cases hnil : rest = []
  · have hspace : (dropEndWhile isBlank [' ']).isEmpty = true := by decide
    rw [hnil, spaced, if_pos rfl, List.append_nil, trim, trimStart_append_of_filled hfilled, hstart,
      trimEnd, dropEndWhile_append, if_pos hspace]
    exact hend
  · have hfilled' : allBlank rest = false := by
      rw [allBlank, hrest]
      exact List.isEmpty_eq_false_iff.mpr hnil
    have hend' : trimEnd rest = rest := by
      rw [← hrest, trim, trimEnd_trimEnd]
    have htrim := trim_append_append [' '] hfilled hfilled'
    rw [List.singleton_append, List.singleton_append, hstart, hend'] at htrim
    rw [spaced, if_neg hnil, htrim]

/-- **The phrase of a name that a verb leads.** -/
theorem ofName_of_leads (hname : IsAscii name) (hverb : verb ∈ verbs) (h : verb.Leads name) :
    ofName name = verb.full ++ spaced (withCapitals (verb.remainder name)) := by
  have hlength : verb.short.length ≤ (words name).length :=
    (length_short_le h).trans (length_le_length_words name)
  have hremainder := isAscii_remainder verb hname
  have htrim : trim (withCapitals (verb.remainder name)) = withCapitals (verb.remainder name) :=
    trim_eq_self_of_map_toLower_eq (map_toLower_withCapitals hremainder) (trim_trim _)
  rw [ofName, (leadingVerb?_eq_some_iff hname).mpr ⟨hverb, h⟩]
  simp only
  rw [dropOctets?_of_ascii (isAscii_words hname) hlength, Option.getD_some, ← Verb.remainder,
    trim_full_append hverb htrim]

/-- **The phrase of a name that no verb leads.** -/
theorem ofName_of_not_leads (hname : IsAscii name) (h : ∀ verb ∈ verbs, ¬ verb.Leads name) :
    ofName name = titled (words name) := by
  rw [ofName, (leadingVerb?_eq_none_iff hname).mpr h]

end Phrase
end CodeGloss
