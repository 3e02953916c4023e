import CodeGloss.Proofs.Explanation.Rendering
import CodeGloss.Proofs.Palette

/-! # What is painted in a rendering

A rendering can be given as runs (`Explanation.render_eq_write`), so a terminal shows it as meant, and
without its sequences it is the plain rendering, as long as no text of the explanation has an escape
character in it.

Headings are runs by construction.  The tier is not: it is painted where it is first announced in the
summary, and a summary could be any text.  In the summary of a snippet nothing in front of the tier
can be taken for an announcement, because there is no capital `C` (`Explanation.paintedSummary_eq`).
So it is the tier in the second line that is painted, whatever the snippet says about complexity.
-/
namespace CodeGloss

/-! ## Replacing the first occurrence -/

namespace Text

/-- Either there is nothing to replace, or one occurrence is replaced and the text around it is
kept. -/
theorem replaceFirst_cases (old t : Text) : (∀ new, replaceFirst old new t = t) ∨
    ∃ above below, t = above ++ (old ++ below) ∧
      ∀ new, replaceFirst old new t = above ++ (new ++ below) := by
  induction t with
  | nil =>
    cases old with
    | nil => exact Or.inr ⟨[], [], rfl, fun new => (List.append_nil new).symm⟩
    | cons c old => exact Or.inl fun _ => rfl
  | cons c rest ih =>
    by_cases hprefix : old.isPrefixOf (c :: rest) = true
    · obtain ⟨below, hbelow⟩ := List.isPrefixOf_iff_prefix.mp hprefix
      refine Or.inr ⟨[], below, hbelow.symm, fun new => ?_⟩
      rw [replaceFirst, if_pos hprefix, ← hbelow, List.drop_left, List.nil_append]
    · have hstep (new : Text) : replaceFirst old new (c :: rest) = c :: replaceFirst old new rest := by
        rw [replaceFirst, if_neg hprefix]
      rcases ih with hsame | ⟨above, below, hrest, hreplaced⟩
      · exact Or.inl fun new => by rw [hstep, hsame]
      · refine Or.inr ⟨c :: above, below, by rw [hrest, List.cons_append], fun new => ?_⟩
        rw [hstep, hreplaced, List.cons_append]

/-- The occurrence is the first one if its first character does not stand in front of it. -/
theorem replaceFirst_append {c : Char} {front : Text} (h : c ∉ front) (old new below : Text) :
    replaceFirst (c :: old) new (front ++ (c :: old ++ below)) = front ++ (new ++ below) := by
  induction front with
  | nil =>
    have hprefix : (c :: old).isPrefixOf (c :: (old ++ below)) = true :=
      List.isPrefixOf_iff_prefix.mpr (List.prefix_append (c :: old) below)
    rw [List.nil_append, List.nil_append, List.cons_append, replaceFirst, if_pos hprefix,
      ← List.cons_append, List.drop_left]
  | cons d front ih =>
    obtain ⟨hd, hfront⟩ := not_or.mp (mt List.mem_cons.mpr h)
    have hprefix : ¬ (c :: old).isPrefixOf (d :: (front ++ (c :: old ++ below))) = true := by
      simp [hd]
    rw [List.cons_append, replaceFirst, if_neg hprefix, ih hfront, List.cons_append]

end Text

open Text

/-! ## The tier in a summary -/

namespace Measures

variable {language : Language} {m : Measures}

/-- What stands in front of the tier in a summary: the first line, and a part of the second. -/
def aboveTier (language : Language) (m : Measures) : Text :=
  "Language guessed: ".toList ++ language.name ++ "\nLines of code: ".toList ++ decimal64 m.lines ++
    "  |  Complexity: ".toList

/-- What stands behind the tier in a summary. -/
def belowTier (m : Measures) : Text :=
  " (".toList ++ decimal64 m.score ++ " pts)".toList ++ behind (m.tallies.filterMap Tally.line?)

/-- The runs of a summary: the tier is in its style, and all else in none. -/
def summaryRuns (language : Language) (m : Measures) : List Run :=
  [.plain (aboveTier language m), .tierName m.tier, .plain (belowTier m)]

theorem inPlainWords_eq (language : Language) (m : Measures) :
    inPlainWords language m = aboveTier language m ++ m.tier.name ++ belowTier m := by
  have hfeed : "\nLines of code: ".toList = '\n' :: "Lines of code: ".toList := by decide
  rw [inPlainWords, summaryLines, ofPieces_cons_eq, behind_of_ne_nil (List.cons_ne_nil _ _),
    ofPieces_cons_eq]
  unfold aboveTier belowTier
  rw [hfeed]
  simp only [List.append_assoc, List.cons_append]

/-- One line feed stands in front of the tier, so the tier is in the second line. -/
theorem count_lineFeed_aboveTier (language : Language) (m : Measures) :
    (aboveTier language m).count '\n' = 1 := by
  have hlanguage : language.name.count '\n' = 0 := by cases language <;> decide
  have hlines : (decimal64 m.lines).count '\n' = 0 :=
    List.count_eq_zero.mpr (not_mem_decimal64 (by decide) m.lines)
  unfold aboveTier
  simp only [List.count_append, hlanguage, hlines]
  decide

/-- The tier is announced in front of it, and no announcement can begin earlier. -/
theorem exists_aboveTier_eq (language : Language) (m : Measures) :
    ∃ front, 'C' ∉ front ∧ aboveTier language m = front ++ "Complexity: ".toList := by
  have hlanguage : 'C' ∉ language.name := by cases language <;> decide
  have hlines : 'C' ∉ decimal64 m.lines := fun h =>
    absurd (isDigit_of_mem_decimal64 h) (by decide)
  have hbar : "  |  Complexity: ".toList = "  |  ".toList ++ "Complexity: ".toList := by decide
  refine ⟨"Language guessed: ".toList ++ language.name ++ "\nLines of code: ".toList ++
    decimal64 m.lines ++ "  |  ".toList, ?_, ?_⟩
  · simp only [List.mem_append, not_or]
    exact ⟨⟨⟨⟨by decide, hlanguage⟩, by decide⟩, hlines⟩, by decide⟩
  · unfold aboveTier
    rw [hbar, List.append_assoc _ "  |  ".toList]

theorem exists_belowTier_eq (m : Measures) : ∃ later, belowTier m = " ".toList ++ later :=
  ⟨'(' :: (decimal64 m.score ++ " pts)".toList ++ behind (m.tallies.filterMap Tally.line?)), rfl⟩

/-- What stands before the space is in no summary, but for line feeds. -/
theorem not_mem_inPlainWords {c : Char} (hc : c.toNat < 0x20) (hfeed : c ≠ '\n') :
    c ∉ inPlainWords language m := by
  intro h
  rcases mem_of_mem_join h with rfl | ⟨line, hline, hmem⟩
  · exact hfeed rfl
  · exact not_mem_of_mem_summaryLines hc hline hmem

end Measures

/-- What stands before the space, but for line feeds, is in a glossed snippet only if it is in the
snippet. -/
theorem Gloss.not_mem_glossed {language : Language} {options : Gloss.Options} {code : Text} {c : Char}
    (hc : c.toNat < 0x20) (hfeed : c ≠ '\n') (hcode : c ∉ code) :
    c ∉ Gloss.glossed language options code := by
  intro h
  rcases mem_of_mem_join h with rfl | ⟨piece, hpiece, hmem⟩
  · exact hfeed rfl
  · obtain ⟨line, hline, hpiece⟩ := List.mem_flatMap.mp hpiece
    have hfree : c ∉ line := fun hmem => hcode (mem_of_mem_split hline hmem)
    exact Gloss.not_mem_of_mem_glossLine hc hfree hpiece hmem

/-! ## Renderings as runs -/

/-- A heading with plain text under it, and the blank line that sets the next heading apart. -/
def Run.part (title : String) (content : Text) : List Run :=
  [.heading title, .plain ('\n' :: content ++ "\n\n".toList)]

/-- The last heading with the runs of a summary under it. -/
def Run.lastPart (summary : List Run) : List Run :=
  .heading "Explanation" :: .plain "\n".toList :: summary

namespace Explanation

/-- The runs of a rendering, with those of its summary. -/
def runs (e : Explanation) (summary : List Run) : List Run :=
  Run.part "Humanized Code" (body e.glossed) ++ Run.lastPart summary

/-- The runs of a rendering step by step, with those of its summary. -/
def runsStepByStep (e : Explanation) (summary : List Run) : List Run :=
  Run.part "Original" (body e.code) ++ Run.part "With comments" (body e.glossed) ++
    Run.lastPart summary

/-- No text of the explanation has an escape character in it. -/
structure EscapeFree (e : Explanation) : Prop where
  code : escape ∉ e.code
  glossed : escape ∉ e.glossed
  summary : escape ∉ e.summary

variable {settings : Settings} {code : Text} {e : Explanation} {palette : Palette}
  {summary : List Run}

theorem render_eq_write (h : paintedSummary palette e = palette.write summary) :
    e.render palette = palette.write (e.runs summary) := by
  rw [render, part, part, h]
  simp [Palette.write, runs, Run.part, Run.lastPart, Run.write, Run.heading, Run.plain,
    Palette.heading]

theorem renderStepByStep_eq_write (h : paintedSummary palette e = palette.write summary) :
    e.renderStepByStep palette = palette.write (e.runsStepByStep summary) := by
  rw [renderStepByStep, part, part, part, h]
  simp [Palette.write, runsStepByStep, Run.part, Run.lastPart, Run.write, Run.heading, Run.plain,
    Palette.heading]

theorem escape_not_mem_part {title : String} {t : Text} (htitle : escape ∉ title.toList)
    (ht : escape ∉ t) : ∀ r ∈ Run.part title (body t), escape ∉ r.text := by
  have hdashes : escape ∉ "--- ".toList ∧ escape ∉ " ---".toList := by decide
  have hfeeds : escape ∉ "\n\n".toList ∧ escape ≠ '\n' := by decide
  have hbody : escape ∉ body t := fun h => ht ((List.rdropWhile_prefix (· == '\n') t).subset h)
  intro r hr
  rcases List.mem_pair.mp hr with rfl | rfl
  · simp only [Run.heading, List.mem_append, not_or]
    exact ⟨⟨hdashes.1, htitle⟩, hdashes.2⟩
  · simp only [Run.plain, List.cons_append, List.mem_cons, List.mem_append, not_or]
    exact ⟨hfeeds.2, hbody, hfeeds.1⟩

theorem escape_not_mem_lastPart (h : ∀ r ∈ summary, escape ∉ r.text) :
    ∀ r ∈ Run.lastPart summary, escape ∉ r.text := by
  intro r hr
  rcases List.mem_cons.mp hr with rfl | hr
  · decide
  · rcases List.mem_cons.mp hr with rfl | hr
    · decide
    · exact h r hr

theorem EscapeFree.runs (he : e.EscapeFree) (h : ∀ r ∈ summary, escape ∉ r.text) :
    ∀ r ∈ e.runs summary, escape ∉ r.text :=
  List.forall_mem_append.mpr
    ⟨escape_not_mem_part (by decide) he.glossed, escape_not_mem_lastPart h⟩

theorem EscapeFree.runsStepByStep (he : e.EscapeFree) (h : ∀ r ∈ summary, escape ∉ r.text) :
    ∀ r ∈ e.runsStepByStep summary, escape ∉ r.text :=
  List.forall_mem_append.mpr
    ⟨List.forall_mem_append.mpr
      ⟨escape_not_mem_part (by decide) he.code, escape_not_mem_part (by decide) he.glossed⟩,
      escape_not_mem_lastPart h⟩

/-! ## The painted tier -/

theorem announcement_append (tier later : Text) :
    announcement tier ++ later = "Complexity: ".toList ++ (tier ++ (" ".toList ++ later)) := by
  unfold announcement
  simp only [List.append_assoc]

/-- A painted summary is runs, whatever the summary is: at most one announcement is painted. -/
theorem exists_paintedSummary_eq_write (h : escape ∉ e.summary) :
    ∃ summary : List Run, (∀ r ∈ summary, escape ∉ r.text) ∧
      ∀ palette, paintedSummary palette e = palette.write summary := by
  rcases replaceFirst_cases (announcement e.measures.tier.name) e.summary with
    hsame | ⟨above, below, hsummary, hreplaced⟩
  · refine ⟨[.plain e.summary], fun r hr => ?_, fun palette => ?_⟩
    · rw [List.mem_singleton.mp hr]
      exact h
    · rw [paintedSummary, hsame]
      exact (List.append_nil e.summary).symm
  · rw [hsummary, announcement_append] at h
    simp only [List.mem_append, not_or] at h
    obtain ⟨habove, hwords, htier, hspace, hbelow⟩ := h
    refine ⟨[.plain (above ++ "Complexity: ".toList), .tierName e.measures.tier,
      .plain (" ".toList ++ below)], fun r hr => ?_, fun palette => ?_⟩
    · simp only [List.mem_cons, List.not_mem_nil, or_false] at hr
      rcases hr with rfl | rfl | rfl
      · exact fun hmem => (List.mem_append.mp hmem).elim habove hwords
      · exact htier
      · exact fun hmem => (List.mem_append.mp hmem).elim hspace hbelow
    · rw [paintedSummary, hreplaced, announcement_append]
      simp [Palette.write, Run.write, Run.plain, Run.tierName, Palette.tierName]

/-- **In the summary of a snippet the tier is painted, and nothing else.** -/
theorem paintedSummary_eq (h : e.summary = Measures.inPlainWords e.language e.measures) :
    paintedSummary palette e = palette.write (Measures.summaryRuns e.language e.measures) := by
  obtain ⟨front, hfront, habove⟩ := Measures.exists_aboveTier_eq e.language e.measures
  obtain ⟨later, hbelow⟩ := Measures.exists_belowTier_eq e.measures
  have hcapital (tier : Text) :
      announcement tier = 'C' :: ("omplexity: ".toList ++ tier ++ " ".toList) := rfl
  have hsummary : e.summary = front ++ (announcement e.measures.tier.name ++ later) := by
    rw [h, Measures.inPlainWords_eq, habove, hbelow, announcement_append]
    simp only [List.append_assoc]
  have hpainted : paintedSummary palette e =
      front ++ (announcement (palette.tierName e.measures.tier) ++ later) := by
    rw [paintedSummary, hsummary, hcapital e.measures.tier.name, replaceFirst_append hfront]
  unfold Measures.summaryRuns
  rw [hpainted, announcement_append, habove, hbelow]
  simp [Palette.write, Run.write, Run.plain, Run.tierName, Palette.tierName]

/-! ## What the colours are on -/

theorem code_eq_of_ofCode (h : ofCode settings code = .ok e) : e.code = code := by
  obtain ⟨m, -, he⟩ := bind_eq_ok_iff.mp h
  obtain rfl := Except.ok.inj he
  rfl

/-- The explanation of a snippet without an escape character has none in any of its texts. -/
theorem EscapeFree.ofCode (hcode : escape ∉ code) (h : ofCode settings code = .ok e) :
    e.EscapeFree := by
  obtain ⟨hglossed, hsummary⟩ := ofCode_shown h
  refine ⟨?_, ?_, ?_⟩
  · rw [code_eq_of_ofCode h]
    exact hcode
  · rw [hglossed]
    exact Gloss.not_mem_glossed (by decide) (by decide) hcode
  · rw [hsummary]
    exact Measures.not_mem_inPlainWords (by decide) (by decide)

theorem escape_not_mem_summaryRuns (h : escape ∉ Measures.inPlainWords e.language e.measures) :
    ∀ r ∈ Measures.summaryRuns e.language e.measures, escape ∉ r.text := by
  rw [Measures.inPlainWords_eq] at h
  simp only [List.mem_append, not_or] at h
  obtain ⟨⟨habove, htier⟩, hbelow⟩ := h
  unfold Measures.summaryRuns
  simp only [List.forall_mem_cons]
  exact ⟨habove, htier, hbelow, fun _ h => absurd h List.not_mem_nil⟩

/-- **Colours change nothing but colours.**  Without its sequences a coloured rendering is the plain
one.  For a snippet, the headings are painted, and the tier in the second line of the summary, and
nothing else. -/
theorem render_colored :
    (∀ e : Explanation, e.EscapeFree →
      withoutSequences (e.render .colored) = e.render .plain ∧
      withoutSequences (e.renderStepByStep .colored) = e.renderStepByStep .plain) ∧
    ∀ (settings : Settings) (code : Text) (e : Explanation), escape ∉ code →
      ofCode settings code = .ok e →
        e.EscapeFree ∧
        e.summary = Measures.aboveTier e.language e.measures ++ e.measures.tier.name ++
          Measures.belowTier e.measures ∧
        (Measures.aboveTier e.language e.measures).count '\n' = 1 ∧
        shown (e.render .colored) =
          (e.runs (Measures.summaryRuns e.language e.measures)).flatMap Run.cells ∧
        shown (e.renderStepByStep .colored) =
          (e.runsStepByStep (Measures.summaryRuns e.language e.measures)).flatMap Run.cells := by
  refine ⟨fun e he => ?_, fun settings code e hcode h => ?_⟩
  · obtain ⟨summary, hfree, hpainted⟩ := exists_paintedSummary_eq_write he.summary
    rw [render_eq_write (hpainted .colored), render_eq_write (hpainted .plain),
      renderStepByStep_eq_write (hpainted .colored), renderStepByStep_eq_write (hpainted .plain)]
    exact ⟨Palette.withoutSequences_write (he.runs hfree),
      Palette.withoutSequences_write (he.runsStepByStep hfree)⟩
  · have he : e.EscapeFree := .ofCode hcode h
    have hsummary : e.summary = Measures.inPlainWords e.language e.measures := (ofCode_shown h).2
    have hfree := escape_not_mem_summaryRuns (hsummary ▸ he.summary)
    refine ⟨he, ?_, Measures.count_lineFeed_aboveTier e.language e.measures, ?_, ?_⟩
    · rw [hsummary, Measures.inPlainWords_eq]
    · rw [render_eq_write (paintedSummary_eq hsummary), Palette.shown_write (he.runs hfree)]
    · rw [renderStepByStep_eq_write (paintedSummary_eq hsummary),
        Palette.shown_write (he.runsStepByStep hfree)]

/-- An explanation whose summary announces its tier twice, and a snippet that announces its own
tier. -/
theorem render_colored_announced :
    let code : Text := "# Complexity: Low \nx = 1".toList
    let twice : Explanation := {
      code, glossed := code, language := .unknown
      summary := "Complexity: Low  |  Complexity: Low ".toList
      measures := ⟨1, 0, 0, 0, 0, 1, .low⟩ }
    twice.EscapeFree ∧ withoutSequences (twice.render .colored) = twice.render .plain ∧
      ∃ e : Explanation, ofCode {} code = .ok e ∧ e.measures.tier = .low ∧ escape ∉ code ∧
        shown (e.render .colored) =
          (e.runs (Measures.summaryRuns e.language e.measures)).flatMap Run.cells := by
  intro code twice
  have hcode : escape ∉ code := by decide
  have htwice : twice.EscapeFree := ⟨hcode, hcode, by decide⟩
  refine ⟨htwice, (render_colored.1 twice htwice).1, ?_⟩
  have htier : (ofCode {} code).map (fun e => e.measures.tier) = .ok .low := by decide +kernel
  cases he : ofCode {} code with
  | error overflow =>
    rw [he] at htier
    cases htier
  | ok e =>
    rw [he] at htier
    exact ⟨e, rfl, Except.ok.inj htier, hcode, (render_colored.2 {} code e hcode he).2.2.2.1⟩

end Explanation
end CodeGloss
