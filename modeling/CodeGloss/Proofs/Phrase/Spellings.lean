import CodeGloss.Proofs.Phrase.Again

/-! # One phrase for all spellings of a name

The words `get`, `user`, `name` are spelled `get_user_name`, `getUserName` or `GetUserName`, and the
phrase is `Get User Name` each time.  However a name spells them, its words come out as the words
that were spelled, one space apart, but for capitals at the start of some of them; and whether a
verb leads can be told from the words as they are run together.  That is all that the phrase depends
on (`Spells`).

Two things are needed.  A word has two letters or more, so that a small letter stands in front of
the next capital; and no verb reaches beyond the first word, as it would in `upDate`, where `update`
leads the name but not `up_date`.
-/
namespace CodeGloss
namespace Phrase

open Text

/-! ## Spellings -/

/-- A word of two or more small letters of ASCII. -/
def IsPlain (w : Text) : Prop :=
  2 ≤ w.length ∧ w.all Char.isLower = true

instance (w : Text) : Decidable (IsPlain w) :=
  inferInstanceAs (Decidable (_ ∧ _))

/-- The word with a capital at the start. -/
def upperFirst (w : Text) : Text :=
  w.modifyHead Char.toUpper

/-- The words with underscores between them. -/
def snakeCase (ws : List Text) : Text :=
  join '_' ws

/-- The words run together, each with a capital at the start. -/
def pascalCase (ws : List Text) : Text :=
  ws.flatMap upperFirst

/-- The words run together, each but the first with a capital at the start. -/
def camelCase : List Text → Text
  | [] => []
  | first :: later => first ++ pascalCase later

variable {w x first : Text} {ws ps later : List Text}

/-! ## Plain words -/

theorem IsPlain.isLower_of_mem (h : IsPlain w) {c : Char} (hc : c ∈ w) : c.isLower = true :=
  List.all_eq_true.mp h.2 c hc

theorem IsPlain.exists_eq (h : IsPlain w) : ∃ a b t, w = a :: b :: t := by
  rcases w with - | ⟨a, - | ⟨b, t⟩⟩
  · exact absurd h.1 (by simp)
  · exact absurd h.1 (by simp)
  · exact ⟨a, b, t, rfl⟩

theorem IsPlain.ne_nil (h : IsPlain w) : w ≠ [] := by
  obtain ⟨a, b, t, rfl⟩ := h.exists_eq
  exact List.cons_ne_nil _ _

theorem IsPlain.map_toLower (h : IsPlain w) : w.map Char.toLower = w := by
  have hsame : ∀ c ∈ w, c.toLower = id c := fun c hc =>
    Char.toLower_eq_of_not_isUpper (Char.not_isUpper_of_isLower (h.isLower_of_mem hc))
  rw [List.map_congr_left hsame, List.map_id]

theorem IsPlain.isAscii (h : IsPlain w) : IsAscii w :=
  isAscii_of_isLower fun _ => h.isLower_of_mem

theorem IsPlain.underscore_not_mem (h : IsPlain w) : '_' ∉ w :=
  fun hc => ne_underscore_of_isLower (h.isLower_of_mem hc) rfl

theorem IsPlain.noCaseChange (h : IsPlain w) : NoCaseChange w := by
  have hsmall : ∀ c ∈ w, c.isLower = true := fun c hc => h.isLower_of_mem hc
  clear h
  induction w with
  | nil => exact List.isChain_nil
  | cons c w ih =>
    obtain ⟨-, hw⟩ := List.forall_mem_cons.mp hsmall
    refine noCaseChange_cons.mpr ⟨spaceBetween_of_not_isUpper ?_, ih hw⟩
    cases w with
    | nil => rfl
    | cons d w =>
      rw [List.head?_cons, Option.any_some]
      exact Bool.eq_false_iff.mpr (Char.not_isUpper_of_isLower (hw d List.mem_cons_self))

theorem IsPlain.words_eq (h : IsPlain w) : words w = w :=
  words_of_noCaseChange h.noCaseChange h.underscore_not_mem

/-! ## Capitals -/

theorem map_toLower_upperFirst (w : Text) : (upperFirst w).map Char.toLower = w.map Char.toLower :=
  map_toLower_modifyHead w

theorem upperFirst_upperFirst (w : Text) : upperFirst (upperFirst w) = upperFirst w := by
  cases w with
  | nil => rfl
  | cons c w => simp [upperFirst]

theorem upperFirst_ne_nil (h : w ≠ []) : upperFirst w ≠ [] := by
  obtain ⟨c, w, rfl⟩ := List.exists_cons_of_ne_nil h
  exact List.cons_ne_nil _ _

theorem IsPlain.words_upperFirst (h : IsPlain w) : words (upperFirst w) = upperFirst w := by
  refine words_of_noCaseChange ?_ ?_
  · rw [upperFirst, ← capitalized_of_ascii h.isAscii]
    exact noCaseChange_capitalized h.isAscii h.noCaseChange
  · exact not_mem_of_map_toLower_eq (by decide) (map_toLower_upperFirst w) h.underscore_not_mem

/-- A word ends with a small letter, also if it has a capital at the start. -/
theorem IsPlain.ends_small (h : IsPlain w) : w.getLast?.any Char.isLower = true ∧
    (upperFirst w).getLast?.any Char.isLower = true := by
  have hend : w.getLast?.any Char.isLower = true := by
    rw [List.getLast?_eq_some_getLast h.ne_nil]
    exact h.isLower_of_mem (List.getLast_mem h.ne_nil)
  refine ⟨hend, ?_⟩
  obtain ⟨a, b, t, rfl⟩ := h.exists_eq
  rw [List.getLast?_cons_cons] at hend
  rw [upperFirst, List.modifyHead_cons, List.getLast?_cons_cons]
  exact hend

theorem IsPlain.head_upperFirst (h : IsPlain w) (t : Text) :
    (upperFirst w ++ t).head?.any Char.isUpper = true := by
  obtain ⟨a, b, t', rfl⟩ := h.exists_eq
  have ha : a.isLower = true := h.isLower_of_mem List.mem_cons_self
  simp [upperFirst, Char.isAlpha, ha]

/-! ## The words of a spelling -/

theorem words_snakeCase (hws : ∀ w ∈ ws, IsPlain w) : words (snakeCase ws) = join ' ' ws := by
  induction ws with
  | nil => rfl
  | cons w later ih =>
    obtain ⟨hw, hlater⟩ := List.forall_mem_cons.mp hws
    by_cases hnil : later = []
    · subst hnil
      simpa [snakeCase, join] using hw.words_eq
    · rw [snakeCase, join_cons_of_ne_nil _ _ hnil, join_cons_of_ne_nil _ _ hnil, words_append,
        words_cons, if_pos rfl, hw.words_eq, spaceBetween_of_not_isUpper rfl,
        spaceBetween_of_not_isLower rfl, ← snakeCase, ih hlater]
      rfl

/-- Every capital behind a small letter begins a word. -/
theorem words_append_pascalCase (hws : ∀ w ∈ ws, IsPlain w) (hx : words x = x)
    (hend : x.getLast?.any Char.isLower = true) :
    words (x ++ pascalCase ws) = join ' ' (x :: ws.map upperFirst) := by
  induction ws generalizing x with
  | nil => simpa [pascalCase, join] using hx
  | cons w later ih =>
    obtain ⟨hw, hlater⟩ := List.forall_mem_cons.mp hws
    have hspace : spaceBetween x.getLast? (upperFirst w ++ pascalCase later) = [' '] := by
      rw [spaceBetween, hend, hw.head_upperFirst]
      rfl
    rw [pascalCase, List.flatMap_cons, ← pascalCase, words_append, hspace, hx,
      ih hlater hw.words_upperFirst hw.ends_small.2, List.map_cons,
      join_cons_of_ne_nil ' ' x (List.cons_ne_nil _ _)]
    rfl

/-- **What all spellings of a name have in common.** -/
structure Spells (name : Text) (ws : List Text) : Prop where
  ascii : IsAscii name
  /-- A verb leads the name if it leads the words as they are run together. -/
  leads_iff : ∀ verb ∈ verbs, verb.Leads name ↔ verb.short <+: ws.flatten
  /-- The words of the name are the words that are spelled, but for capitals at the start. -/
  words_eq : ∃ ps : List Text, ps.map upperFirst = ws.map upperFirst ∧ words name = join ' ' ps

theorem map_toLower_pascalCase (hws : ∀ w ∈ ws, IsPlain w) :
    (pascalCase ws).map Char.toLower = ws.flatten := by
  induction ws with
  | nil => rfl
  | cons w later ih =>
    obtain ⟨hw, hlater⟩ := List.forall_mem_cons.mp hws
    rw [pascalCase, List.flatMap_cons, ← pascalCase, List.map_append, map_toLower_upperFirst,
      hw.map_toLower, ih hlater, List.flatten_cons]

theorem isAscii_flatten (hws : ∀ w ∈ ws, IsPlain w) : IsAscii ws.flatten := by
  intro c hc
  obtain ⟨w, hw, hmem⟩ := List.mem_flatten.mp hc
  exact (hws w hw).isAscii c hmem

theorem map_toLower_plain (hws : ∀ w ∈ ws, IsPlain w) : ws.map (List.map Char.toLower) = ws := by
  have hsame : ∀ w ∈ ws, w.map Char.toLower = id w := fun w hw => (hws w hw).map_toLower
  rw [List.map_congr_left hsame, List.map_id]

/-- Names that differ from the words in the case of letters only. -/
theorem spells_of_map_toLower_eq {name : Text} (hws : ∀ w ∈ ws, IsPlain w)
    (hname : name.map Char.toLower = ws.flatten)
    (hwords : ∃ ps : List Text, ps.map upperFirst = ws.map upperFirst ∧ words name = join ' ' ps) :
    Spells name ws := by
  have hflatten : ws.flatten.map Char.toLower = ws.flatten := by
    rw [List.map_flatten, map_toLower_plain hws]
  exact {
    ascii := (isAscii_flatten hws).of_map_toLower_eq (hname.trans hflatten.symm)
    leads_iff := fun verb _ => by rw [Verb.Leads, hname]
    words_eq := hwords }

theorem spells_pascalCase (hws : ∀ w ∈ first :: later, IsPlain w) :
    Spells (pascalCase (first :: later)) (first :: later) := by
  obtain ⟨hfirst, hlater⟩ := List.forall_mem_cons.mp hws
  refine spells_of_map_toLower_eq hws (map_toLower_pascalCase hws)
    ⟨(first :: later).map upperFirst, by simp [Function.comp_def, upperFirst_upperFirst], ?_⟩
  rw [pascalCase, List.flatMap_cons, ← pascalCase,
    words_append_pascalCase hlater hfirst.words_upperFirst hfirst.ends_small.2, List.map_cons]

theorem spells_camelCase (hws : ∀ w ∈ first :: later, IsPlain w) :
    Spells (camelCase (first :: later)) (first :: later) := by
  obtain ⟨hfirst, hlater⟩ := List.forall_mem_cons.mp hws
  refine spells_of_map_toLower_eq hws ?_
    ⟨first :: later.map upperFirst, by simp [Function.comp_def, upperFirst_upperFirst], ?_⟩
  · rw [camelCase, List.map_append, hfirst.map_toLower, map_toLower_pascalCase hlater,
      List.flatten_cons]
  · rw [camelCase, words_append_pascalCase hlater hfirst.words_eq hfirst.ends_small.1]

/-- The first piece is what joined pieces begin with. -/
theorem exists_join_eq_append (mark : Char) (p : Text) (ps : List Text) :
    ∃ t, join mark (p :: ps) = p ++ t := by
  by_cases hnil : ps = []
  · exact ⟨[], by simp [join, hnil]⟩
  · exact ⟨_, join_cons_of_ne_nil mark p hnil⟩

/-- No mark is passed by a text that does not have it. -/
theorem prefix_of_prefix_append_mark {mark : Char} {p s t : Text} (hp : mark ∉ p)
    (h : p <+: s ++ mark :: t) : p <+: s := by
  rcases Nat.le_total p.length s.length with hle | hle
  · exact List.prefix_of_prefix_length_le h (List.prefix_append _ _) hle
  · -- otherwise the text in front of the mark is the shorter one, and the mark comes next
    obtain ⟨rest, rfl⟩ := List.prefix_of_prefix_length_le (List.prefix_append _ _) h hle
    cases rest with
    | nil => rw [List.append_nil]
    | cons c rest =>
      obtain ⟨rfl, -⟩ := List.cons_prefix_cons.mp ((List.prefix_append_right_inj s).mp h)
      exact absurd (by simp) hp

theorem mem_snakeCase (hws : ∀ w ∈ ws, IsPlain w) {c : Char} (hc : c ∈ snakeCase ws) :
    c = '_' ∨ c.isLower = true := by
  refine (mem_of_mem_join hc).imp_right ?_
  rintro ⟨w, hw, hcw⟩
  exact (hws w hw).isLower_of_mem hcw

theorem map_toLower_snakeCase (hws : ∀ w ∈ ws, IsPlain w) :
    (snakeCase ws).map Char.toLower = snakeCase ws := by
  have hsame : ∀ c ∈ snakeCase ws, c.toLower = id c := by
    intro c hc
    rcases mem_snakeCase hws hc with rfl | hlower
    · decide
    · exact Char.toLower_eq_of_not_isUpper (Char.not_isUpper_of_isLower hlower)
  rw [List.map_congr_left hsame, List.map_id]

theorem spells_snakeCase (hws : ∀ w ∈ first :: later, IsPlain w)
    (hverbs : ∀ verb ∈ verbs, verb.short <+: (first :: later).flatten →
      verb.short.length ≤ first.length) :
    Spells (snakeCase (first :: later)) (first :: later) := by
  have hfirst : first <+: snakeCase (first :: later) := by
    obtain ⟨t, ht⟩ := exists_join_eq_append '_' first later
    exact ⟨t, ht.symm⟩
  refine ⟨fun c hc => ?_, fun verb hverb => ?_, first :: later, rfl, words_snakeCase hws⟩
  · rcases mem_snakeCase hws hc with rfl | hlower
    · decide
    · have hbounds := bounds_of_isLower hlower
      omega
  · rw [Verb.Leads, map_toLower_snakeCase hws, List.flatten_cons]
    constructor
    · intro h
      refine List.IsPrefix.trans ?_ (List.prefix_append first later.flatten)
      by_cases hnil : later = []
      · simpa [snakeCase, join, hnil] using h
      · rw [snakeCase, join_cons_of_ne_nil _ _ hnil] at h
        refine prefix_of_prefix_append_mark (fun hc => ?_) h
        exact ne_underscore_of_isLower (isLower_of_mem_short hverb hc) rfl
    · intro h
      have hle := hverbs verb hverb h
      exact (List.prefix_of_prefix_length_le h (List.prefix_append _ _) hle).trans hfirst

/-! ## Words with spaces between them -/

/-- A text that is not empty and has no blanks. -/
def IsSolid (p : Text) : Prop :=
  p ≠ [] ∧ ∀ c ∈ p, isBlank c = false

theorem IsSolid.space_not_mem {p : Text} (h : IsSolid p) : ' ' ∉ p :=
  fun hc => absurd (h.2 _ hc) (by decide)

theorem IsSolid.allBlank_append {p : Text} (h : IsSolid p) (t : Text) :
    allBlank (p ++ t) = false := by
  obtain ⟨c, p, rfl⟩ := List.exists_cons_of_ne_nil h.1
  refine Bool.eq_false_iff.mpr fun hblank => ?_
  have hc := allBlank_eq_true_iff.mp hblank c List.mem_cons_self
  rw [h.2 c List.mem_cons_self] at hc
  cases hc

theorem IsSolid.trimStart_append {p : Text} (h : IsSolid p) (t : Text) :
    trimStart (p ++ t) = p ++ t := by
  obtain ⟨c, p, rfl⟩ := List.exists_cons_of_ne_nil h.1
  exact trimStart_cons_of_not_blank (h.2 c List.mem_cons_self) _

theorem map_join (ps : List Text) :
    (join ' ' ps).map Char.toLower = join ' ' (ps.map (List.map Char.toLower)) := by
  induction ps with
  | nil => rfl
  | cons p ps ih =>
    by_cases hnil : ps = []
    · simp [join, hnil]
    · have hne : ps.map (List.map Char.toLower) ≠ [] := by simpa using hnil
      rw [join_cons_of_ne_nil _ _ hnil, List.map_cons, join_cons_of_ne_nil _ _ hne,
        List.map_append, List.map_cons, ih]
      rfl

theorem drop_join {n : Nat} {p : Text} (hn : n ≤ p.length) (ps : List Text) :
    (join ' ' (p :: ps)).drop n = join ' ' (p.drop n :: ps) := by
  by_cases hnil : ps = []
  · simp [join, hnil]
  · rw [join_cons_of_ne_nil _ _ hnil, join_cons_of_ne_nil _ _ hnil,
      List.drop_append_of_le_length hn]

theorem join_cons_filled {p : Text} (hp : IsSolid p) (ps : List Text) :
    allBlank (join ' ' (p :: ps)) = false := by
  obtain ⟨t, ht⟩ := exists_join_eq_append ' ' p ps
  rw [ht]
  exact hp.allBlank_append t

theorem trimEnd_join (hps : ∀ p ∈ ps, IsSolid p) : trimEnd (join ' ' ps) = join ' ' ps := by
  induction ps with
  | nil => rfl
  | cons p ps ih =>
    obtain ⟨hp, hps⟩ := List.forall_mem_cons.mp hps
    cases ps with
    | nil =>
      obtain ⟨front, c, rfl⟩ := (List.eq_nil_or_concat' p).resolve_left hp.1
      have hc : isBlank c = false := hp.2 c (by simp)
      simp [join, trimEnd, dropEndWhile, hc]
    | cons q qs =>
      have hfilled := join_cons_filled (hps q List.mem_cons_self) qs
      rw [join_cons_of_ne_nil _ _ (List.cons_ne_nil q qs), List.append_cons,
        trimEnd_append_of_filled _ hfilled, ih hps]

/-- Nothing is trimmed from words. -/
theorem trim_join (hps : ∀ p ∈ ps, IsSolid p) : trim (join ' ' ps) = join ' ' ps := by
  cases ps with
  | nil => rfl
  | cons p ps =>
    obtain ⟨t, ht⟩ := exists_join_eq_append ' ' p ps
    have hp : IsSolid p := hps p List.mem_cons_self
    rw [trim, ht, hp.trimStart_append, ← ht, trimEnd_join hps]

/-- The space in front of words is trimmed if the first word has gone. -/
theorem trim_join_cons {p : Text} (hp : ∀ c ∈ p, isBlank c = false) (hps : ∀ q ∈ ps, IsSolid q) :
    trim (join ' ' (p :: ps)) = join ' ' (if p = [] then ps else p :: ps) := by
  by_cases hnil : p = []
  · rw [if_pos hnil, hnil]
    by_cases hnil' : ps = []
    · rw [hnil']
      rfl
    · rw [join_cons_of_ne_nil _ _ hnil', List.nil_append, trim_cons_of_blank (by decide),
        trim_join hps]
  · rw [if_neg hnil]
    exact trim_join (List.forall_mem_cons.mpr ⟨⟨hnil, hp⟩, hps⟩)

theorem withCapitals_join_of_solid (hps : ∀ p ∈ ps, IsSolid p) :
    withCapitals (join ' ' ps) = join ' ' (ps.map capitalized) := by
  by_cases hnil : ps = []
  · rw [hnil]
    rfl
  · exact withCapitals_join hnil fun p hp => (hps p hp).space_not_mem

theorem append_spaced_join (s : Text) (hps : ∀ p ∈ ps, p ≠ []) :
    s ++ spaced (join ' ' ps) = join ' ' (s :: ps) := by
  cases ps with
  | nil => simp [join, spaced]
  | cons p ps =>
    have hne : join ' ' (p :: ps) ≠ [] := by
      obtain ⟨t, ht⟩ := exists_join_eq_append ' ' p ps
      rw [ht]
      exact List.append_ne_nil_of_left_ne_nil (hps p List.mem_cons_self) t
    rw [spaced, if_neg hne, join_cons_of_ne_nil _ _ (List.cons_ne_nil p ps)]

/-! ## Words in title case -/

theorem titledFrom_true_append (hw : ∀ c ∈ w, c.isLower = true) (rest : Text) :
    titledFrom true (w ++ rest) = w ++ titledFrom true rest := by
  induction w with
  | nil => rfl
  | cons c w ih =>
    obtain ⟨hc, hw⟩ := List.forall_mem_cons.mp hw
    have hbounds := bounds_of_isLower hc
    have halpha : c.isAlpha = true := by rw [Char.isAlpha, hc, Bool.or_true]
    have hsame : c.toLower = c := Char.toLower_eq_of_not_isUpper (Char.not_isUpper_of_isLower hc)
    rw [List.cons_append, titledFrom_cons_of_ascii (by omega), halpha, ih hw, hsame]
    rfl

theorem IsPlain.titledFrom_append (h : IsPlain w) (rest : Text) :
    titledFrom false (w ++ rest) = upperFirst w ++ titledFrom true rest := by
  obtain ⟨a, b, t, rfl⟩ := h.exists_eq
  have ha : a.isLower = true := h.isLower_of_mem List.mem_cons_self
  have hbounds := bounds_of_isLower ha
  have halpha : a.isAlpha = true := by rw [Char.isAlpha, ha, Bool.or_true]
  rw [List.cons_append, titledFrom_cons_of_ascii (by omega), halpha,
    titledFrom_true_append fun c hc => h.isLower_of_mem (List.mem_cons_of_mem a hc)]
  rfl

/-- **Words in title case** each have a capital at the start. -/
theorem titled_join (hws : ∀ w ∈ ws, IsPlain w) :
    titled (join ' ' ws) = join ' ' (ws.map upperFirst) := by
  induction ws with
  | nil => rfl
  | cons w later ih =>
    obtain ⟨hw, hlater⟩ := List.forall_mem_cons.mp hws
    by_cases hnil : later = []
    · subst hnil
      have hone := hw.titledFrom_append []
      rw [List.append_nil, titledFrom, List.append_nil] at hone
      simpa [join, titled] using hone
    · have hspace (rest : Text) : titledFrom true (' ' :: rest) = ' ' :: titled rest := by
        rw [titledFrom_cons_of_ascii (by decide)]
        rfl
      rw [join_cons_of_ne_nil _ _ hnil, titled, hw.titledFrom_append, hspace, ih hlater,
        List.map_cons, join_cons_of_ne_nil _ _ (by simpa using hnil)]

/-! ## Phrases -/

section Phrases

variable {name : Text}

/-- The words but for capitals at the start are the words. -/
theorem map_toLower_of_map_upperFirst_eq (hws : ∀ w ∈ ws, IsPlain w)
    (h : ps.map upperFirst = ws.map upperFirst) : ps.map (List.map Char.toLower) = ws := by
  have hlower (l : List Text) :
      (l.map upperFirst).map (List.map Char.toLower) = l.map (List.map Char.toLower) := by
    rw [List.map_map]
    exact List.map_congr_left fun p _ => map_toLower_upperFirst p
  rw [← hlower, h, hlower, map_toLower_plain hws]

theorem isSolid_of_isPlain {p : Text} (h : IsPlain (p.map Char.toLower)) : IsSolid p := by
  refine ⟨fun hnil => h.ne_nil (by rw [hnil]; rfl), fun c hc => ?_⟩
  rw [← isBlank_toLower]
  exact isBlank_of_isLower (h.isLower_of_mem (List.mem_map_of_mem hc))

theorem isAscii_of_isPlain {p : Text} (h : IsPlain (p.map Char.toLower)) : IsAscii p :=
  h.isAscii.of_map_toLower_eq h.map_toLower.symm

/-- Without a verb. -/
theorem Spells.ofName_of_not_leads (h : Spells name ws) (hws : ∀ w ∈ ws, IsPlain w)
    (hnone : ∀ verb ∈ verbs, ¬ verb.short <+: ws.flatten) :
    ofName name = join ' ' (ws.map upperFirst) := by
  obtain ⟨ps, hps, hwords⟩ := h.words_eq
  have hnot : ∀ verb ∈ verbs, ¬ verb.Leads name := fun verb hverb hleads =>
    hnone verb hverb ((h.leads_iff verb hverb).mp hleads)
  have hsame : (join ' ' ws).map Char.toLower = (words name).map Char.toLower := by
    rw [hwords, map_join, map_join, map_toLower_of_map_upperFirst_eq hws hps,
      map_toLower_of_map_upperFirst_eq hws rfl]
  rw [Phrase.ofName_of_not_leads h.ascii hnot,
    ← titled_of_map_toLower_eq (isAscii_words h.ascii) hsame, titled_join hws]

/-- Words that differ from the given ones at the start of each at most. -/
theorem exists_cons_of_map_upperFirst_eq (hws : ∀ w ∈ first :: later, IsPlain w)
    (h : ps.map upperFirst = (first :: later).map upperFirst) :
    ∃ x ys, ps = x :: ys ∧ x.length = first.length ∧
      (∀ n, 0 < n → x.drop n = first.drop n) ∧ (∀ y ∈ ys, IsSolid y) ∧
      ys.map capitalized = later.map upperFirst := by
  obtain ⟨-, hlater⟩ := List.forall_mem_cons.mp hws
  rcases ps with - | ⟨x, ys⟩
  · cases h
  rw [List.map_cons, List.map_cons, List.cons_eq_cons] at h
  obtain ⟨hx, hys⟩ := h
  have hplain : ∀ y ∈ ys, IsPlain (y.map Char.toLower) := by
    intro y hy
    have hmem : y.map Char.toLower ∈ ys.map (List.map Char.toLower) := List.mem_map_of_mem hy
    rw [map_toLower_of_map_upperFirst_eq hlater hys] at hmem
    exact hlater _ hmem
  refine ⟨x, ys, rfl, ?_, fun n hn => ?_, fun y hy => isSolid_of_isPlain (hplain y hy), ?_⟩
  · have hlength := congrArg List.length hx
    rwa [upperFirst, upperFirst, List.length_modifyHead, List.length_modifyHead] at hlength
  · have hdrop := congrArg (List.drop n) hx
    rwa [upperFirst, upperFirst, List.drop_modifyHead_of_pos hn,
      List.drop_modifyHead_of_pos hn] at hdrop
  · rw [← hys]
    exact List.map_congr_left fun y hy => capitalized_of_ascii (isAscii_of_isPlain (hplain y hy))

/-- Behind a verb: what is left of the first word, if anything is, and the other words. -/
theorem append_spaced_withCapitals (s : Text) {rest : Text} (hrest : ∀ c ∈ rest, c.isLower = true)
    (hps : ∀ p ∈ ps, IsSolid p) (hcapitals : ps.map capitalized = later.map upperFirst)
    (hlater : ∀ w ∈ later, w ≠ []) :
    s ++ spaced (withCapitals (trim (join ' ' (rest :: ps)))) =
      join ' ' (s :: (if rest = [] then later else rest :: later).map upperFirst) := by
  have hblank : ∀ c ∈ rest, isBlank c = false := fun c hc => isBlank_of_isLower (hrest c hc)
  have hfilled : ∀ p ∈ later.map upperFirst, p ≠ [] :=
    List.forall_mem_map.mpr fun w hw => upperFirst_ne_nil (hlater w hw)
  rw [trim_join_cons hblank hps]
  by_cases hnil : rest = []
  · rw [if_pos hnil, if_pos hnil, withCapitals_join_of_solid hps, hcapitals,
      append_spaced_join s hfilled]
  · have hsolid : ∀ p ∈ rest :: ps, IsSolid p := List.forall_mem_cons.mpr ⟨⟨hnil, hblank⟩, hps⟩
    have hfilled' : ∀ p ∈ upperFirst rest :: later.map upperFirst, p ≠ [] :=
      List.forall_mem_cons.mpr ⟨upperFirst_ne_nil hnil, hfilled⟩
    rw [if_neg hnil, if_neg hnil, withCapitals_join_of_solid hsolid, List.map_cons, hcapitals,
      capitalized_of_ascii (isAscii_of_isLower hrest), ← upperFirst,
      append_spaced_join s hfilled', List.map_cons]

/-- With a verb that does not reach beyond the first word. -/
theorem Spells.ofName_of_leads {verb : Verb} (h : Spells name (first :: later))
    (hws : ∀ w ∈ first :: later, IsPlain w) (hverb : verb ∈ verbs)
    (hleads : verb.short <+: (first :: later).flatten) (hle : verb.short.length ≤ first.length) :
    ofName name = join ' ' (verb.full :: (if first.length = verb.short.length then later
      else first.drop verb.short.length :: later).map upperFirst) := by
  obtain ⟨ps, hps, hwords⟩ := h.words_eq
  obtain ⟨x, ys, rfl, hlength, hdrop, hsolid, hcapitals⟩ :=
    exists_cons_of_map_upperFirst_eq hws hps
  obtain ⟨hfirst, hlater⟩ := List.forall_mem_cons.mp hws
  have hrest : ∀ c ∈ first.drop verb.short.length, c.isLower = true := fun c hc =>
    hfirst.isLower_of_mem (List.mem_of_mem_drop hc)
  have hall : first.drop verb.short.length = [] ↔ first.length = verb.short.length := by
    rw [List.drop_eq_nil_iff]
    omega
  -- the capital at the start of the first word goes with the verb
  rw [Phrase.ofName_of_leads h.ascii hverb ((h.leads_iff verb hverb).mpr hleads), Verb.remainder,
    hwords, drop_join (hlength ▸ hle), hdrop _ (length_short_pos verb hverb),
    append_spaced_withCapitals verb.full hrest hsolid hcapitals fun w hw => (hlater w hw).ne_nil]
  simp only [hall]

/-- **All spellings of a name have one phrase**: the words with capitals, one space apart, or a verb
that is written out with what is left of the first word and the other words behind it. -/
theorem ofName_spellings (hws : ∀ w ∈ first :: later, IsPlain w)
    (hverbs : ∀ verb ∈ verbs, verb.short <+: (first :: later).flatten →
      verb.short.length ≤ first.length) :
    ∃ phrase : Text,
      ofName (snakeCase (first :: later)) = phrase ∧
      ofName (camelCase (first :: later)) = phrase ∧
      ofName (pascalCase (first :: later)) = phrase ∧
      ((∀ verb ∈ verbs, ¬ verb.short <+: (first :: later).flatten) →
        phrase = join ' ' ((first :: later).map upperFirst)) ∧
      ∀ verb ∈ verbs, verb.short <+: (first :: later).flatten →
        phrase = join ' ' (verb.full :: (if first.length = verb.short.length then later
          else first.drop verb.short.length :: later).map upperFirst) := by
  have hsnake := spells_snakeCase hws hverbs
  have hcamel := spells_camelCase hws
  have hpascal := spells_pascalCase hws
  by_cases hverb : ∃ verb ∈ verbs, verb.short <+: (first :: later).flatten
  · obtain ⟨verb, hmem, hleads⟩ := hverb
    have hle := hverbs verb hmem hleads
    refine ⟨_, hsnake.ofName_of_leads hws hmem hleads hle,
      hcamel.ofName_of_leads hws hmem hleads hle, hpascal.ofName_of_leads hws hmem hleads hle,
      fun hnone => absurd hleads (hnone verb hmem),
      fun other hother hleads' => ?_⟩
    rw [← hsnake.ofName_of_leads hws hmem hleads hle,
      hsnake.ofName_of_leads hws hother hleads' (hverbs other hother hleads')]
  · have hnone (verb : Verb) (hmem : verb ∈ verbs) : ¬ verb.short <+: (first :: later).flatten :=
      fun hleads => hverb ⟨verb, hmem, hleads⟩
    exact ⟨_, hsnake.ofName_of_not_leads hws hnone, hcamel.ofName_of_not_leads hws hnone,
      hpascal.ofName_of_not_leads hws hnone, fun _ => rfl,
      fun verb hmem hleads => absurd hleads (hnone verb hmem)⟩

/-- A name with a verb that is a part of its first word, and one without a verb. -/
theorem ofName_spellings_getter :
    ((∀ w ∈ ["getter".toList, "of".toList, "names".toList], IsPlain w) ∧
      (∀ verb ∈ verbs, verb.short <+: ["getter".toList, "of".toList, "names".toList].flatten →
        verb.short.length ≤ "getter".toList.length) ∧
      ofName (camelCase ["getter".toList, "of".toList, "names".toList]) =
        "Get Ter Of Names".toList) ∧
    ofName (snakeCase ["load".toList, "rows".toList]) =
      ofName (pascalCase ["load".toList, "rows".toList]) := by
  have hws : ∀ w ∈ ["getter".toList, "of".toList, "names".toList], IsPlain w := by decide
  have hverbs : ∀ verb ∈ verbs,
      verb.short <+: ["getter".toList, "of".toList, "names".toList].flatten →
        verb.short.length ≤ "getter".toList.length := by decide
  obtain ⟨phrase, -, hcamel, -, -, hphrase⟩ := ofName_spellings hws hverbs
  have hget := hphrase ⟨"get".toList, "Get".toList⟩ (by decide) (by decide)
  have hws' : ∀ w ∈ ["load".toList, "rows".toList], IsPlain w := by decide
  obtain ⟨phrase', hsnake, -, hpascal, -, -⟩ := ofName_spellings hws' (by decide)
  exact ⟨⟨hws, hverbs, hcamel.trans hget⟩, hsnake.trans hpascal.symm⟩

end Phrases

end Phrase
end CodeGloss
