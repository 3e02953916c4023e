import CodeGloss.Proofs.Phrase.Verbs

/-! # The letters of a phrase

A phrase holds the characters of its name, each once and in order, but for case, blanks and
underscores; only a verb at the start is written out.  There is one exception.  The verb is cut off
the words by its length, and if the case changes **within the verb** as it stands in the name, the
words have spaces there, so that fewer letters are cut off than the verb has.  The last letters of
the verb then come again: the phrase of `parSe_x` is `Parse E X`.
-/
namespace CodeGloss
namespace Phrase

open Text

variable {verb : Verb} {name s : Text}

/-! ## What is cut off -/

theorem stripped_spaced (rest : Text) : stripped (spaced rest) = stripped rest := by
  by_cases hnil : rest = []
  · rw [spaced, if_pos hnil, hnil]
  · have hspace : stripped [' '] = [] := by decide
    rw [spaced, if_neg hnil, ← List.singleton_append, stripped_append, hspace, List.nil_append]

theorem stripped_of_map_toLower_eq {t : Text} (h : s.map Char.toLower = t.map Char.toLower) :
    stripped s = stripped t := by
  rw [stripped, h, stripped]

/-- Letters are what a text is stripped to. -/
theorem stripped_eq_of_map_toLower_eq {word : Text} (hword : ∀ c ∈ word, c.isLower = true)
    (h : s.map Char.toLower = word) : stripped s = word := by
  rw [stripped, h, List.filter_eq_self]
  intro c hc
  rw [isBlank_of_isLower (hword c hc), Bool.not_false, Bool.true_and]
  exact bne_iff_ne.mpr (ne_underscore_of_isLower (hword c hc))

/-- **When words are cut off by the length of the name, letters are left over exactly if the case
changes in it.** -/
theorem stripped_drop_words_eq_nil_iff (hs : ∀ c ∈ s.map Char.toLower, c.isLower = true) :
    stripped ((words s).drop s.length) = [] ↔ NoCaseChange s := by
  constructor
  · intro h
    rcases List.eq_nil_or_concat' s with rfl | ⟨front, c, rfl⟩
    · exact List.isChain_nil
    · -- the last letter is the end of the words too, so it would be left over
      by_contra hchange
      have hlower : c.toLower.isLower = true := hs _ (List.mem_map_of_mem (by simp))
      have hunderscore : c ≠ '_' := by
        rintro rfl
        exact ne_underscore_of_isLower hlower rfl
      have hlast : stripped [c] = [c.toLower] :=
        stripped_eq_of_map_toLower_eq (List.forall_mem_singleton.mpr hlower) rfl
      obtain ⟨before, hwords⟩ := exists_words_concat front hunderscore
      have hle := length_le_length_words (front ++ [c])
      have hne := mt length_words_eq_iff.mp hchange
      rw [hwords] at h hle hne
      have hcut : (front ++ [c]).length ≤ before.length := by
        have hlong : (before ++ [c]).length = before.length + 1 := List.length_append
        omega
      rw [List.drop_append_of_le_length hcut, stripped_append, List.append_eq_nil_iff, hlast] at h
      exact absurd h.2 (List.cons_ne_nil _ _)
  · intro h
    rw [List.drop_eq_nil_of_le (length_words_eq_iff.mpr h).le]
    rfl

/-- The letters that are left over are the last ones of the name. -/
theorem stripped_drop_suffix (n : Nat) (s : Text) :
    stripped ((words s).drop n) <:+ stripped s := by
  rw [← stripped_words s]
  exact ((List.drop_suffix n (words s)).map Char.toLower).filter _

/-! ## Phrases -/

/-- The letters of a phrase with a verb are those of the verb and of the words behind it. -/
theorem stripped_ofName_of_leads (hname : IsAscii name) (hverb : verb ∈ verbs)
    (h : verb.Leads name) :
    stripped (ofName name) =
      stripped verb.full ++ stripped ((words name).drop verb.short.length) := by
  rw [ofName_of_leads hname hverb h, stripped_append, stripped_spaced,
    stripped_of_map_toLower_eq (map_toLower_withCapitals (isAscii_remainder verb hname)),
    Verb.remainder, stripped_trim]

/-- What is cut off the words: all letters of the verb, but for those that are left over. -/
theorem stripped_drop_words (h : verb.Leads name) :
    stripped ((words name).drop verb.short.length) =
      stripped ((words (name.take verb.short.length)).drop verb.short.length) ++
        stripped (name.drop verb.short.length) := by
  have hlength : verb.short.length ≤ (words (name.take verb.short.length)).length := by
    refine le_trans ?_ (length_le_length_words _)
    rw [List.length_take_of_le (length_short_le h)]
  conv_lhs => rw [← List.take_append_drop verb.short.length name]
  rw [words_append, List.drop_append_of_le_length hlength, stripped_append, stripped_append,
    stripped_spaceBetween, stripped_words, List.nil_append]

/-- **No character of a name is lost, repeated or moved in its phrase**, unless the case changes
within a verb that leads the name; then, and only then, letters at the end of the verb come
again. -/
theorem stripped_ofName (hname : IsAscii name) :
    ((∀ verb ∈ verbs, ¬ verb.Leads name) → stripped (ofName name) = stripped name) ∧
      ∀ verb ∈ verbs, verb.Leads name →
        (stripped (ofName name) =
            stripped verb.full ++ stripped (name.drop verb.short.length) ↔
          NoCaseChange (name.take verb.short.length)) ∧
        (¬ NoCaseChange (name.take verb.short.length) →
          ∃ again, again ≠ [] ∧ again <:+ verb.short ∧
            stripped (ofName name) =
              stripped verb.full ++ (again ++ stripped (name.drop verb.short.length))) := by
  constructor
  · intro hnone
    rw [ofName_of_not_leads hname hnone, titled,
      stripped_of_map_toLower_eq (map_toLower_titledFrom (isAscii_words hname)), stripped_words]
  · intro verb hverb h
    have hlower (c : Char) (hc : c ∈ verb.short) := isLower_of_mem_short hverb hc
    have htake := h.map_toLower_take
    have hlength : (name.take verb.short.length).length = verb.short.length :=
      List.length_take_of_le (length_short_le h)
    have hagain := stripped_drop_words_eq_nil_iff (s := name.take verb.short.length)
      (by rw [htake]; exact hlower)
    have hsuffix := stripped_drop_suffix verb.short.length (name.take verb.short.length)
    rw [hlength] at hagain
    rw [stripped_eq_of_map_toLower_eq hlower htake] at hsuffix
    rw [stripped_ofName_of_leads hname hverb h, stripped_drop_words h]
    constructor
    · rw [List.append_cancel_left_eq, List.append_left_eq_self]
      exact hagain
    · intro hchange
      exact ⟨_, mt hagain.mp hchange, hsuffix, rfl⟩

/-- No verb leads the first name; in the second the case changes behind the verb, and in the third
one within it, so that the last letter of the verb comes again. -/
theorem stripped_ofName_split_verb :
    (IsAscii "user_Name".toList ∧ stripped (ofName "user_Name".toList) = "username".toList) ∧
      (IsAscii "parseX".toList ∧ stripped (ofName "parseX".toList) = "parse".toList ++ "x".toList) ∧
      IsAscii "parSe_x".toList ∧
      (⟨"parse".toList, "Parse".toList⟩ : Verb).Leads "parSe_x".toList ∧
      ¬ NoCaseChange ("parSe_x".toList.take 5) ∧
      ∃ again, again ≠ [] ∧ again <:+ "parse".toList ∧
        stripped (ofName "parSe_x".toList) = "parse".toList ++ (again ++ "x".toList) := by
  have hnone : IsAscii "user_Name".toList := by decide
  have hbehind : IsAscii "parseX".toList := by decide
  have hascii : IsAscii "parSe_x".toList := by decide
  have hverb : (⟨"parse".toList, "Parse".toList⟩ : Verb) ∈ verbs := by decide
  have hleads : (⟨"parse".toList, "Parse".toList⟩ : Verb).Leads "parSe_x".toList := by decide
  have hchange : ¬ NoCaseChange ("parSe_x".toList.take 5) := by decide
  refine ⟨⟨hnone, (stripped_ofName hnone).1 (by decide)⟩, ⟨hbehind, ?_⟩, hascii, hleads, hchange,
    ?_⟩
  · exact ((stripped_ofName hbehind).2 _ hverb (by decide)).1.mpr (by decide)
  · exact ((stripped_ofName hascii).2 _ hverb hleads).2 hchange

end Phrase
end CodeGloss
