import CodeGloss.Proofs.Phrase.Verbs
import CodeGloss.Proofs.Remark.Ends
import CodeGloss.Proofs.Text.Utf8

/-! # Where the verb is cut off

The verb is looked for in the small letters of a name, and as many octets as it has are dropped of
the words.  In general neither the letters nor the octets of these texts stand at the same places:
the small form of a letter can have more or fewer octets than the letter, and two letters in place of
one.  The Kelvin sign even becomes an ASCII letter, and so does the dotted capital I in part.

No verb has a `k` or an `i`, so what becomes a letter of a verb was that letter in ASCII before
(`toLower_of_mem_lower`).  A name that a verb leads thus begins with as many ASCII characters as the
verb has, whatever stands behind them; so do its words, and the cut is behind a character
(`exists_cut`).
-/
namespace CodeGloss

/-! ## Letters with an ASCII letter as their small form -/

namespace Text

/-- Letters beyond ASCII have small forms beyond ASCII, but for the Kelvin sign. -/
theorem image_beyond_ascii : ∀ r ∈ smallForms,
    r.last < 0x80 ∨ 0x80 ≤ r.image ∨ r.image = 'k'.toNat ∧ r.first = r.last := by
  decide +kernel

/-- An ASCII character other than `i` and `k` is the small form of ASCII characters only. -/
theorem toLower_of_mem_lower {a c : Char} (ha : a.toNat < 0x80) (hi : a ≠ 'i') (hk : a ≠ 'k')
    (h : a ∈ lower c) : lower c = [a] ∧ c.toLower = a := by
  by_cases hc : c.toNat < 0x80
  · rw [lower_of_ascii hc] at h ⊢
    rw [List.mem_singleton.mp h]
    exact ⟨rfl, rfl⟩
  · exfalso
    unfold lower at h
    split at h
    · rcases List.mem_pair.mp h with rfl | rfl
      · exact hi rfl
      · exact absurd ha (by decide)
    · split at h
      next n himage =>
        obtain rfl := List.mem_singleton.mp h
        obtain ⟨r, hr, hfirst, hlast, rfl⟩ := CaseRun.exists_of_image? himage
        obtain ⟨-, hvalid, -⟩ := image_bounds r (List.mem_append_left _ hr)
        have hchar : (r.image + (c.toNat - r.first)).isValidChar := by
          rcases hvalid with hv | ⟨hv, hv'⟩
          · exact Or.inl (by omega)
          · exact Or.inr ⟨by omega, by omega⟩
        rw [toNat_ofNat_of_isValidChar hchar] at ha
        rcases image_beyond_ascii r hr with hbelow | hbeyond | ⟨hkelvin, hone⟩
        · omega
        · omega
        · have hsame : r.image + (c.toNat - r.first) = 'k'.toNat := by omega
          exact hk (by rw [hsame, Char.ofNat_toNat])
      next =>
        rw [List.mem_singleton.mp h] at ha
        exact hc ha

/-- A word without `i` and `k` that the small letters of a text begin with is spelled in ASCII
letters at the start of the text. -/
theorem prefix_map_toLower_of_prefix_lowercase {word t : Text} (hascii : IsAscii word)
    (hi : 'i' ∉ word) (hk : 'k' ∉ word) (h : word <+: lowercase t) :
    word <+: t.map Char.toLower := by
  induction word generalizing t with
  | nil => exact List.nil_prefix
  | cons a word ih =>
    obtain ⟨ha, hascii⟩ := isAscii_cons.mp hascii
    rw [List.mem_cons, not_or] at hi hk
    cases t with
    | nil => exact absurd (List.prefix_nil.mp h) (List.cons_ne_nil a word)
    | cons c t =>
      rw [lowercase, List.flatMap_cons] at h
      obtain ⟨x, later, hlower⟩ := List.exists_cons_of_ne_nil (lower_ne_nil c)
      have hmem : a ∈ lower c := by
        rw [hlower, List.cons_append, List.cons_prefix_cons] at h
        rw [hlower, h.1]
        exact List.mem_cons_self
      obtain ⟨hone, hsmall⟩ := toLower_of_mem_lower ha (Ne.symm hi.1) (Ne.symm hk.1) hmem
      rw [hone, List.singleton_append, List.cons_prefix_cons] at h
      rw [List.map_cons, List.cons_prefix_cons]
      exact ⟨hsmall.symm, ih hascii hi.2 hk.2 h.2⟩

/-- An ASCII text has as many octets as characters. -/
theorem length_encode_of_ascii {t : Text} (ht : IsAscii t) :
    (Utf8.encode t).length = t.length := by
  induction t with
  | nil => rfl
  | cons c t ih =>
    obtain ⟨hc, ht⟩ := isAscii_cons.mp ht
    rw [Utf8.encode_cons, List.length_append, String.length_utf8EncodeChar, utf8Size_of_ascii hc,
      ih ht, List.length_cons, Nat.add_comm]

end Text

namespace Phrase

open Text

variable {verb : Verb} {name : Text}

/-! ## Names beyond ASCII -/

/-- No verb has one of the two letters that a character beyond ASCII can turn into. -/
theorem short_letters : ∀ verb ∈ verbs, 'i' ∉ verb.short ∧ 'k' ∉ verb.short := by decide

/-- **A verb that is found leads the name**, whatever characters the name has. -/
theorem leads_of_leadingVerb? (h : leadingVerb? name = some verb) :
    verb ∈ verbs ∧ verb.Leads name := by
  have hverb : verb ∈ verbs := List.mem_of_find?_eq_some h
  have hfound := List.find?_some h
  have hprefix : verb.short <+: lowercase name := List.isPrefixOf_iff_prefix.mp hfound
  obtain ⟨hi, hk⟩ := short_letters verb hverb
  exact ⟨hverb, prefix_map_toLower_of_prefix_lowercase
    (isAscii_of_isLower fun _ => isLower_of_mem_short hverb) hi hk hprefix⟩

/-- What the verb takes of the name is ASCII. -/
theorem Verb.Leads.isAscii_take (hverb : verb ∈ verbs) (h : verb.Leads name) :
    IsAscii (name.take verb.short.length) := by
  intro c hc
  have hsmall : c.toLower ∈ verb.short := h.map_toLower_take ▸ List.mem_map_of_mem hc
  rw [← toNat_toLower_lt_iff]
  exact isAscii_of_isLower (fun _ => isLower_of_mem_short hverb) _ hsmall

/-- The words have as many ASCII characters at the start as the name. -/
theorem isAscii_take_words {n : Nat} (hn : n ≤ name.length) (h : IsAscii (name.take n)) :
    n ≤ (words name).length ∧ IsAscii ((words name).take n) := by
  have hwords : words name = words (name.take n) ++
      (spaceBetween (name.take n).getLast? (name.drop n) ++ words (name.drop n)) := by
    rw [← words_append, List.take_append_drop]
  have hlength : n ≤ (words (name.take n)).length := by
    have hle := length_le_length_words (name.take n)
    rwa [List.length_take_of_le hn] at hle
  refine ⟨hn.trans (length_le_length_words name), ?_⟩
  rw [hwords, List.take_append_of_le_length hlength]
  exact fun c hc => isAscii_words h c (List.mem_of_mem_take hc)

/-! ## The cut -/

/-- A text is cut behind each of its characters. -/
theorem dropOctets?_append (front rest : Text) :
    dropOctets? (Utf8.encode front).length (front ++ rest) = some rest := by
  induction front with
  | nil => simp [Utf8.encode, dropOctets?]
  | cons c front ih =>
    have hpos : 0 < c.utf8Size := c.utf8Size_pos
    obtain ⟨n, hn⟩ : ∃ n, c.utf8Size + (Utf8.encode front).length = n + 1 :=
      ⟨_, (Nat.sub_add_cancel (by omega)).symm⟩
    have hrest : n + 1 - c.utf8Size = (Utf8.encode front).length := by omega
    rw [Utf8.encode_cons, List.length_append, String.length_utf8EncodeChar, hn, List.cons_append,
      dropOctets?, if_pos (by omega), hrest, ih]

/-- **Where a verb is found, the words can be cut behind its octets**: they begin with a text of as
many octets as the verb has, and the phrase is made of all that stands behind it. -/
theorem exists_cut (h : leadingVerb? name = some verb) :
    ∃ front rest, words name = front ++ rest ∧
      (Utf8.encode front).length = (Utf8.encode verb.short).length ∧
      dropOctets? verb.short.length (words name) = some rest ∧
      ofName name = trim (verb.full ++ ' ' :: withCapitals (trim rest)) := by
  obtain ⟨hverb, hleads⟩ := leads_of_leadingVerb? h
  obtain ⟨hlength, hfront⟩ :=
    isAscii_take_words (length_short_le hleads) (hleads.isAscii_take hverb)
  have hsplit : words name =
      (words name).take verb.short.length ++ (words name).drop verb.short.length :=
    (List.take_append_drop _ _).symm
  have hoctets : (Utf8.encode ((words name).take verb.short.length)).length =
      verb.short.length := by
    rw [length_encode_of_ascii hfront, List.length_take_of_le hlength]
  have hcut : dropOctets? verb.short.length (words name) =
      some ((words name).drop verb.short.length) := by
    have hdrop := dropOctets?_append ((words name).take verb.short.length)
      ((words name).drop verb.short.length)
    rwa [hoctets, ← hsplit] at hdrop
  have hshort : (Utf8.encode verb.short).length = verb.short.length :=
    length_encode_of_ascii (isAscii_of_isLower fun _ => isLower_of_mem_short hverb)
  refine ⟨_, _, hsplit, hoctets.trans hshort.symm, hcut, ?_⟩
  rw [ofName, h]
  simp only [hcut, Option.getD_some]

/-- The words of a name can have a space within the verb, so the cut is in front of its last letter
here; the Kelvin sign and the dotted capital I behind it stay. -/
theorem exists_cut_capital_within :
    let name : Text := "cAlc".toList ++ [Char.ofNat 0x212A, Char.ofNat 0x130]
    leadingVerb? name = some ⟨"calc".toList, "Calculate".toList⟩ ∧
    ∃ front rest, words name = front ++ rest ∧
      (Utf8.encode front).length = (Utf8.encode "calc".toList).length ∧
      dropOctets? 4 (words name) = some rest ∧
      ofName name = trim ("Calculate".toList ++ ' ' :: withCapitals (trim rest)) := by
  intro name
  have hverb : leadingVerb? name = some ⟨"calc".toList, "Calculate".toList⟩ := by decide +kernel
  exact ⟨hverb, exists_cut hverb⟩

end Phrase
end CodeGloss
