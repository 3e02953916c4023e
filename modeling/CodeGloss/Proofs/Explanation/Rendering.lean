import CodeGloss.Explanation.Rendering
import CodeGloss.Proofs.Gloss
import CodeGloss.Proofs.Json.Numeral
import CodeGloss.Proofs.Scoring
import CodeGloss.Proofs.Text.Lines

/-! # What a plain rendering shows

A plain rendering shows the snippet, but for the line feeds it ends with
(`Explanation.body_eq_of_render_plain_eq`).

The glossed snippet may have lines that look like headings.  But no line of a summary looks like one
(`Measures.ne_border_of_mem_summaryLines`), so the last such line of a rendering is the border, and
the glossed snippet stands above it.  The first line of the summary names the language, and with the
language the glosses can be taken out.  Line feeds at the end are blank lines, which have no gloss:
however many of them are dropped, what is above them is the same (`Gloss.unglossed_append_lineFeeds`).
-/
namespace CodeGloss

namespace Text

/-- A mark that does not come again splits a list in one way. -/
theorem append_cons_inj {α : Type} {mark : α} {above above' below below' : List α}
    (hmark : mark ∉ below) (hmark' : mark ∉ below')
    (h : above ++ mark :: below = above' ++ mark :: below') : above = above' ∧ below = below' := by
  rcases List.append_eq_append_iff.mp h with ⟨between, rfl, hbelow⟩ | ⟨between, rfl, hbelow⟩
  all_goals
    cases between with
    | nil => exact ⟨by simp, by simp_all⟩
    | cons first later =>
      obtain ⟨rfl, rfl⟩ := List.cons.inj hbelow
      simp at hmark hmark'

theorem replaceFirst_self (old t : Text) : replaceFirst old old t = t := by
  induction t with
  | nil => cases old <;> rfl
  | cons c rest ih =>
    rw [replaceFirst, ih]
    split
    next h =>
      obtain ⟨later, hlater⟩ := List.isPrefixOf_iff_prefix.mp h
      rw [← hlater, List.drop_left]
    next => rfl

/-! ## Line feeds at the end -/

theorem body_append_lineFeeds (t : Text) (n : Nat) :
    Explanation.body (t ++ lineFeeds n) = Explanation.body t := by
  have hfeeds : dropEndWhile (· == '\n') (lineFeeds n) = [] := by
    simp [dropEndWhile, lineFeeds]
  rw [Explanation.body, dropEndWhile_append, hfeeds, List.isEmpty_nil, if_pos rfl, Explanation.body]

theorem exists_eq_body_append_lineFeeds (t : Text) : ∃ n, t = Explanation.body t ++ lineFeeds n := by
  have hfeeds : t.reverse.takeWhile (· == '\n') =
      lineFeeds (t.reverse.takeWhile (· == '\n')).length :=
    List.eq_replicate_of_mem fun c hc => by simpa using List.mem_takeWhile_imp hc
  refine ⟨(t.reverse.takeWhile (· == '\n')).length, ?_⟩
  calc t = (t.reverse.takeWhile (· == '\n') ++ t.reverse.dropWhile (· == '\n')).reverse := by
        rw [List.takeWhile_append_dropWhile, List.reverse_reverse]
    _ = Explanation.body t ++ (t.reverse.takeWhile (· == '\n')).reverse := by
        rw [List.reverse_append, Explanation.body, dropEndWhile]
    _ = Explanation.body t ++ lineFeeds (t.reverse.takeWhile (· == '\n')).length := by
        conv_lhs => rw [hfeeds, lineFeeds, List.reverse_replicate, ← lineFeeds]

end Text

/-! ## The lines of a summary -/

namespace Measures

open Text

variable {c : Char} {line : Text} {language language' : Language} {m m' : Measures}

/-- A digit does not stand before the space. -/
theorem not_mem_decimal64 (hc : c.toNat < 0x20) (n : UInt64) : c ∉ decimal64 n := by
  intro h
  have hdigit : c.isDigit = true := isDigit_of_mem_decimal64 h
  have hlow : 0x30 ≤ c.toNat := of_decide_eq_true (Bool.and_eq_true_iff.mp hdigit).1
  omega

theorem not_mem_fixed (hc : c.toNat < 0x20) {t : Text}
    (ht : t.all fun c => decide (0x20 ≤ c.toNat)) : c ∉ t := fun h =>
  absurd (le_toNat_of_mem_fixed ht h) (Nat.not_le.mpr hc)

theorem not_mem_words (hc : c.toNat < 0x20) {t : Tally} (ht : t ∈ m.tallies) :
    c ∉ t.verb ∧ c ∉ t.singular ∧ c ∉ t.plural := by
  simp only [tallies, List.mem_cons, List.not_mem_nil, or_false] at ht
  rcases ht with rfl | rfl | rfl | rfl
  all_goals
    exact ⟨not_mem_fixed hc rfl, not_mem_fixed hc rfl, not_mem_fixed hc rfl⟩

theorem exists_of_line? {t : Tally} (h : t.line? = some line) :
    ∃ noun, (noun = t.singular ∨ noun = t.plural) ∧
      line = "- ".toList ++ t.verb ++ ' ' :: decimal64 t.count ++ ' ' :: noun := by
  unfold Tally.line? at h
  split at h
  · cases h
  · refine ⟨if t.count = 1 then t.singular else t.plural, ?_, (Option.some.inj h).symm⟩
    split
    · exact Or.inl rfl
    · exact Or.inr rfl

/-- The line for the language, the line for the size, and lines for tallies. -/
theorem cases_of_mem_summaryLines (h : line ∈ summaryLines language m) :
    line = "Language guessed: ".toList ++ language.name ∨
    line = "Lines of code: ".toList ++ decimal64 m.lines ++ "  |  Complexity: ".toList ++
      m.tier.name ++ " (".toList ++ decimal64 m.score ++ " pts)".toList ∨
    ∃ t ∈ m.tallies, t.line? = some line := by
  rw [summaryLines, List.mem_cons, List.mem_cons, List.mem_filterMap] at h
  exact h

/-- What stands before the space is in no line of a summary. -/
theorem not_mem_of_mem_summaryLines (hc : c.toNat < 0x20) (h : line ∈ summaryLines language m) :
    c ∉ line := by
  rcases cases_of_mem_summaryLines h with rfl | rfl | ⟨t, ht, hline⟩
  · exact not_mem_fixed hc (by cases language <;> decide)
  · have htier : c ∉ m.tier.name := not_mem_fixed hc (by cases m.tier <;> decide)
    simp only [List.mem_append, not_or]
    exact ⟨⟨⟨⟨⟨⟨not_mem_fixed hc (by decide), not_mem_decimal64 hc m.lines⟩,
      not_mem_fixed hc (by decide)⟩, htier⟩, not_mem_fixed hc (by decide)⟩,
      not_mem_decimal64 hc m.score⟩, not_mem_fixed hc (by decide)⟩
  · obtain ⟨noun, hnoun, rfl⟩ := exists_of_line? hline
    obtain ⟨hverb, hsingular, hplural⟩ := not_mem_words hc ht
    have hfree : c ∉ noun := by
      rcases hnoun with rfl | rfl
      · exact hsingular
      · exact hplural
    have hspace : c ≠ ' ' := by
      rintro rfl
      exact absurd hc (by decide)
    simp only [List.mem_append, List.mem_cons, not_or]
    exact ⟨⟨⟨not_mem_fixed hc (by decide), hverb⟩, hspace, not_mem_decimal64 hc t.count⟩, hspace,
      hfree⟩

theorem lineFeed_not_mem_of_mem_summaryLines (h : line ∈ summaryLines language m) : '\n' ∉ line :=
  not_mem_of_mem_summaryLines (by decide) h

/-- **No line of a summary is a heading**: it does not begin with two dashes. -/
theorem ne_border_of_mem_summaryLines (h : line ∈ summaryLines language m) :
    line ≠ Palette.heading .plain "Explanation".toList := by
  intro hline
  have hdashes : line.take 2 = "--".toList := by
    rw [hline]
    decide
  rcases cases_of_mem_summaryLines h with rfl | rfl | ⟨t, -, hcount⟩
  · simp at hdashes
  · simp at hdashes
  · obtain ⟨noun, -, rfl⟩ := exists_of_line? hcount
    simp at hdashes

/-- The first line of a summary names the language. -/
theorem language_eq_of_summaryLines_eq (h : summaryLines language m = summaryLines language' m') :
    language = language' :=
  Language.name_injective (List.append_cancel_left (List.cons.inj h).1)

end Measures

/-! ## Undoing glosses above line feeds -/

namespace Gloss

open Text

variable {language : Language} {options : Options}

theorem remark?_nil (language : Language) : remark? language [] = none := by
  have hblank : allBlank [] = true := by decide
  rw [remark?, hblank, Bool.true_or, if_pos rfl]

theorem dropGlosses_replicate_append (language : Language) (n : Nat) (above : List Text) :
    dropGlosses language (List.replicate n [] ++ above) =
      List.replicate n [] ++ dropGlosses language above := by
  induction n with
  | zero => rfl
  | succ n ih =>
    rw [List.replicate_succ, List.cons_append, dropGlosses_cons_of_none (remark?_nil language), ih,
      List.cons_append]

theorem dropGlosses_ne_nil {lines : List Text} (h : lines ≠ []) :
    dropGlosses language lines ≠ [] := by
  cases lines with
  | nil => exact absurd rfl h
  | cons line above =>
    rw [dropGlosses.eq_def]
    exact List.cons_ne_nil _ _

/-- **Line feeds at the end have no glosses.** -/
theorem unglossed_append_lineFeeds (language : Language) (t : Text) (n : Nat) :
    unglossed language (t ++ lineFeeds n) = unglossed language t ++ lineFeeds n := by
  have hne : (dropGlosses language (pieces t).reverse).reverse ≠ [] := by
    simpa using dropGlosses_ne_nil (by simpa using pieces_ne_nil t)
  rw [unglossed, pieces_append_lineFeeds, List.reverse_append, List.reverse_replicate,
    dropGlosses_replicate_append, List.reverse_append, List.reverse_replicate,
    ofPieces_append_replicate hne, unglossed]

/-- What is shown of a glossed snippet is enough to show the snippet. -/
theorem body_unglossed_body (language : Language) (options : Options) (code : Text) :
    Explanation.body (unglossed language (Explanation.body (glossed language options code))) =
      Explanation.body code := by
  obtain ⟨n, hglossed⟩ := exists_eq_body_append_lineFeeds (glossed language options code)
  calc Explanation.body (unglossed language (Explanation.body (glossed language options code)))
      = Explanation.body (unglossed language
          (Explanation.body (glossed language options code) ++ lineFeeds n)) := by
        rw [unglossed_append_lineFeeds, body_append_lineFeeds]
    _ = Explanation.body code := by
        rw [← hglossed, unglossed_glossed]

end Gloss

/-! ## Renderings -/

namespace Explanation

open Text

variable {settings settings' : Settings} {code code' : Text} {e e' : Explanation}

/-- What is shown of an explanation. -/
theorem ofCode_shown (h : ofCode settings code = .ok e) :
    e.glossed = Gloss.glossed e.language settings.gloss code ∧
      e.summary = Measures.inPlainWords e.language e.measures := by
  obtain ⟨m, -, he⟩ := bind_eq_ok_iff.mp h
  obtain rfl := Except.ok.inj he
  exact ⟨rfl, rfl⟩

theorem paintedSummary_plain (e : Explanation) : paintedSummary .plain e = e.summary :=
  replaceFirst_self _ e.summary

/-- The lines of a plain rendering: the last heading in it stands between the snippet and the
summary. -/
theorem pieces_render (h : ofCode settings code = .ok e) :
    pieces (e.render .plain) =
      (Palette.heading .plain "Humanized Code".toList :: pieces (body e.glossed) ++ [[]]) ++
        Palette.heading .plain "Explanation".toList ::
          Measures.summaryLines e.language e.measures := by
  have hsummary : pieces e.summary = Measures.summaryLines e.language e.measures := by
    rw [(ofCode_shown h).2]
    exact pieces_ofPieces (List.cons_ne_nil _ _)
      fun _ => Measures.lineFeed_not_mem_of_mem_summaryLines
  have htitle : pieces (Palette.heading .plain "Humanized Code".toList) =
      [Palette.heading .plain "Humanized Code".toList] := by decide
  have hborder : pieces (Palette.heading .plain "Explanation".toList) =
      [Palette.heading .plain "Explanation".toList] := by decide
  have hlines : e.render .plain =
      Palette.heading .plain "Humanized Code".toList ++ '\n' :: (body e.glossed ++ '\n' ::
        ([] ++ '\n' :: (Palette.heading .plain "Explanation".toList ++ '\n' :: e.summary))) := by
    simp [render, part, paintedSummary_plain]
  rw [hlines, pieces_append, pieces_append, pieces_append, pieces_append, htitle, hborder, hsummary,
    List.append_assoc]
  rfl

/-- **A plain rendering loses nothing but line feeds at the end** of the snippet: snippets that are
rendered alike are the same but for those, whatever is in them and whatever their settings. -/
theorem body_eq_of_render_plain_eq (he : ofCode settings code = .ok e)
    (he' : ofCode settings' code' = .ok e') (h : e.render .plain = e'.render .plain) :
    body code = body code' := by
  have hpieces := congrArg pieces h
  rw [pieces_render he, pieces_render he'] at hpieces
  have hborder (e : Explanation) :
      Palette.heading .plain "Explanation".toList ∉ Measures.summaryLines e.language e.measures :=
    fun hmem => Measures.ne_border_of_mem_summaryLines hmem rfl
  -- below the border only the summary is left, whatever the snippet looks like
  obtain ⟨habove, hsummary⟩ := append_cons_inj (hborder e) (hborder e') hpieces
  have hlanguage : e.language = e'.language := Measures.language_eq_of_summaryLines_eq hsummary
  have hshown : body e.glossed = body e'.glossed := by
    have hlines := (List.cons.inj (List.append_cancel_right habove)).2
    rw [← ofPieces_pieces (body e.glossed), hlines, ofPieces_pieces]
  -- one language for both, so one way to take the glosses out
  rw [(ofCode_shown he).1, (ofCode_shown he').1, hlanguage] at hshown
  rw [← Gloss.body_unglossed_body e'.language settings.gloss code, hshown,
    Gloss.body_unglossed_body]

/-- Two snippets that are rendered alike, with a copy of a rendering in them. -/
theorem body_eq_of_render_plain_eq_copied :
    let code : Text := "x\n\n--- Explanation ---\nLanguage guessed: c".toList
    ∃ e e' : Explanation, ofCode {} code = .ok e ∧ ofCode {} (code ++ lineFeeds 2) = .ok e' ∧
      e.render .plain = e'.render .plain ∧ body code = body (code ++ lineFeeds 2) := by
  intro code
  have hok : (ofCode {} code).isOk = true := by decide +kernel
  have hok' : (ofCode {} (code ++ lineFeeds 2)).isOk = true := by decide +kernel
  have hsame : (ofCode {} code).map (render .plain) =
      (ofCode {} (code ++ lineFeeds 2)).map (render .plain) := by decide +kernel
  cases he : ofCode {} code with
  | error overflow =>
    rw [he] at hok
    cases hok
  | ok e =>
    cases he' : ofCode {} (code ++ lineFeeds 2) with
    | error overflow =>
      rw [he'] at hok'
      cases hok'
    | ok e' =>
      rw [he, he'] at hsame
      have hrender : e.render .plain = e'.render .plain := Except.ok.inj hsame
      exact ⟨e, e', rfl, rfl, hrender, body_eq_of_render_plain_eq he he' hrender⟩

end Explanation
end CodeGloss
