import CodeGloss.Proofs.Phrase.Letters

/-! # The phrase of a phrase

Phrases can be given as names.  The phrase of a phrase is that phrase again, with one exception: the
verb `calc` is written out in more letters than it has, so the letters that are too many become a
word of their own each time: `Calculate Sum`, then `Calculate Ulate Sum`.

With a verb, the rest of a phrase is trimmed, has capitals, and shows no change of case (`IsRest`),
so it is found again behind the verb, as it is.  Without a verb the words are in title case,
and that makes no verb appear where there was none.
-/
namespace CodeGloss
namespace Phrase

open Text

variable {verb : Verb} {name rest : Text}

/-! ## Behind a verb -/

/-- **What a phrase can have behind its verb.** -/
structure IsRest (rest : Text) : Prop where
  ascii : IsAscii rest
  noCaseChange : NoCaseChange rest
  underscore_not_mem : '_' ∉ rest
  trimmed : trim rest = rest
  withCapitals_eq : withCapitals rest = rest

theorem isRest_withCapitals_remainder (verb : Verb) (hname : IsAscii name) :
    IsRest (withCapitals (verb.remainder name)) := by
  have hascii : IsAscii (verb.remainder name) := isAscii_remainder verb hname
  have hcase := map_toLower_withCapitals hascii
  have hpart : verb.remainder name <:+: words name :=
    (trim_isInfix _).trans (List.drop_suffix _ _).isInfix
  exact {
    ascii := hascii.of_map_toLower_eq hcase
    noCaseChange := noCaseChange_withCapitals hascii ((noCaseChange_words name).of_isInfix hpart)
    underscore_not_mem :=
      not_mem_of_map_toLower_eq (by decide) hcase fun h =>
        underscore_not_mem_words name (hpart.subset h)
    trimmed := trim_eq_self_of_map_toLower_eq hcase (trim_trim _)
    withCapitals_eq := withCapitals_withCapitals hascii }

/-- Verbs and what stands behind them hold words that are apart. -/
theorem IsRest.words_full_append (h : IsRest rest) (hverb : verb ∈ verbs) :
    words (verb.full ++ spaced rest) = verb.full ++ spaced rest := by
  obtain ⟨-, hchange, hunderscore, -⟩ := full_shape verb hverb
  by_cases hnil : rest = []
  · rw [spaced, if_pos hnil, List.append_nil]
    exact words_of_noCaseChange hchange hunderscore
  · rw [spaced, if_neg hnil]
    refine words_of_noCaseChange (noCaseChange_append_space.mpr ⟨hchange, h.noCaseChange⟩) ?_
    simp [hunderscore, h.underscore_not_mem]

theorem IsRest.isAscii_full_append (h : IsRest rest) (hverb : verb ∈ verbs) :
    IsAscii (verb.full ++ spaced rest) := by
  obtain ⟨hfull, -⟩ := full_shape verb hverb
  refine isAscii_append.mpr ⟨hfull, ?_⟩
  unfold spaced
  split
  · exact List.forall_mem_nil _
  · exact isAscii_cons.mpr ⟨by decide, h.ascii⟩

/-- Written out, a verb still leads. -/
theorem leads_full_append (hverb : verb ∈ verbs) (rest : Text) :
    verb.Leads (verb.full ++ rest) := by
  rw [Verb.Leads, List.map_append]
  exact (short_prefix_full verb hverb).trans (List.prefix_append _ _)

/-- The rest is found again behind the verb, if that has as many letters as its spelling. -/
theorem IsRest.remainder_full_append (h : IsRest rest) (hverb : verb ∈ verbs)
    (hlength : verb.full.length = verb.short.length) :
    verb.remainder (verb.full ++ spaced rest) = rest := by
  rw [Verb.remainder, h.words_full_append hverb, ← hlength, List.drop_left]
  by_cases hnil : rest = []
  · rw [spaced, if_pos hnil, hnil]
    rfl
  · rw [spaced, if_neg hnil, trim_cons_of_blank (by decide), h.trimmed]

/-- **A phrase with a verb is its own phrase if the verb has as many letters as its spelling.** -/
theorem IsRest.ofName_full_append (h : IsRest rest) (hverb : verb ∈ verbs)
    (hlength : verb.full.length = verb.short.length) :
    ofName (verb.full ++ spaced rest) = verb.full ++ spaced rest := by
  rw [ofName_of_leads (h.isAscii_full_append hverb) hverb (leads_full_append hverb _),
    h.remainder_full_append hverb hlength, h.withCapitals_eq]

/-- The letters of a verb beyond its spelling come again in the phrase of a phrase. -/
theorem IsRest.stripped_ofName_full_append (h : IsRest rest) (hverb : verb ∈ verbs) :
    stripped (ofName (verb.full ++ spaced rest)) =
      stripped verb.full ++ (stripped (verb.full.drop verb.short.length) ++ stripped rest) := by
  have hlength : verb.short.length ≤ verb.full.length := by
    have hprefix := (short_prefix_full verb hverb).length_le
    rwa [List.length_map] at hprefix
  rw [stripped_ofName_of_leads (h.isAscii_full_append hverb) hverb (leads_full_append hverb _),
    h.words_full_append hverb, List.drop_append_of_le_length hlength, stripped_append,
    stripped_spaced]

/-! ## Without a verb -/

/-- Title case makes no verb appear. -/
theorem not_leads_titled_words (hname : IsAscii name) (h : ∀ verb ∈ verbs, ¬ verb.Leads name) :
    ∀ verb ∈ verbs, ¬ verb.Leads (titled (words name)) := by
  intro verb hverb hleads
  rw [Verb.Leads, titled, map_toLower_titledFrom (isAscii_words hname)] at hleads
  exact h verb hverb
    (prefix_of_prefix_words (fun c hc => isLower_of_mem_short hverb hc) hleads)

theorem ofName_titled_words (hname : IsAscii name) (h : ∀ verb ∈ verbs, ¬ verb.Leads name) :
    ofName (titled (words name)) = titled (words name) := by
  have hwords := isAscii_words hname
  have hcase : (titled (words name)).map Char.toLower = (words name).map Char.toLower :=
    map_toLower_titledFrom hwords
  have hapart : words (titled (words name)) = titled (words name) :=
    words_of_noCaseChange (noCaseChange_titledFrom hwords)
      (not_mem_of_map_toLower_eq (by decide) hcase (underscore_not_mem_words name))
  rw [ofName_of_not_leads (hwords.of_map_toLower_eq hcase) (not_leads_titled_words hname h), hapart,
    titled_titled hwords]

/-! ## All phrases -/

/-- The one verb that is written out in more letters than it has. -/
theorem short_eq_calc_or : ∀ verb ∈ verbs, verb.short = "calc".toList ∧
      stripped (verb.full.drop verb.short.length) ≠ [] ∨
    verb.short ≠ "calc".toList ∧ verb.full.length = verb.short.length := by
  decide +kernel

/-- **The phrase of a phrase is that phrase, but for names that begin with `calc`.** -/
theorem ofName_ofName_eq_iff (hname : IsAscii name) :
    ofName (ofName name) = ofName name ↔ ¬ "calc".toList <+: name.map Char.toLower := by
  by_cases hverb : ∃ verb ∈ verbs, verb.Leads name
  · obtain ⟨verb, hmem, hleads⟩ := hverb
    have hrest := isRest_withCapitals_remainder verb hname
    rw [ofName_of_leads hname hmem hleads]
    rcases short_eq_calc_or verb hmem with ⟨hcalc, hmore⟩ | ⟨hother, hlength⟩
    · refine iff_of_false ?_ (not_not.mpr (hcalc ▸ hleads))
      intro heq
      have hletters := congrArg stripped heq
      rw [hrest.stripped_ofName_full_append hmem, stripped_append, stripped_spaced,
        List.append_cancel_left_eq, List.append_left_eq_self] at hletters
      exact hmore hletters
    · refine iff_of_true (hrest.ofName_full_append hmem hlength) ?_
      intro hcalc
      have hmem' : (⟨"calc".toList, "Calculate".toList⟩ : Verb) ∈ verbs := by decide
      rw [eq_of_leads hmem hmem' hleads hcalc] at hother
      exact hother rfl
  · have hnone (verb : Verb) (hmem : verb ∈ verbs) : ¬ verb.Leads name :=
      fun hleads => hverb ⟨verb, hmem, hleads⟩
    rw [ofName_of_not_leads hname hnone]
    refine iff_of_true (ofName_titled_words hname hnone) ?_
    exact hnone ⟨"calc".toList, "Calculate".toList⟩ (by decide)

/-- The case changes within the verb of the first name; the verb of the other one is `calc`. -/
theorem ofName_ofName_eq_iff_shouted :
    (IsAscii "gEtX_y".toList ∧ ofName (ofName "gEtX_y".toList) = ofName "gEtX_y".toList) ∧
      IsAscii "CALC_SUM".toList ∧
      ofName (ofName "CALC_SUM".toList) ≠ ofName "CALC_SUM".toList := by
  have hascii : IsAscii "gEtX_y".toList := by decide
  have hascii' : IsAscii "CALC_SUM".toList := by decide
  exact ⟨⟨hascii, (ofName_ofName_eq_iff hascii).mpr (by decide)⟩, hascii',
    mt (ofName_ofName_eq_iff hascii').mp (by decide)⟩

end Phrase
end CodeGloss
