import CodeGloss.Proofs.CommandLine.Sandbox

/-! # Explanations that are written and read again

An explanation is read from its written form, every field of it, whatever the texts in it are: quotes
and controls in a snippet are escaped and read back, and the names of languages and tiers are told
apart (`Explanation.lawful_codec`).

The program prints the written form and a line end.  What has been printed can be read as the
explanation (`Program.explainSnippet_json`).
-/
namespace CodeGloss

open Text Json

theorem Tier.mem_all (t : Tier) : t ∈ all := by
  cases t <;> decide

/-- No two tiers share a name. -/
theorem Tier.name_injective {t u : Tier} (h : t.name = u.name) : t = u := by
  revert h
  cases t <;> cases u <;> decide

theorem Language.lawful_codec : Language.codec.Lawful :=
  Codec.lawful_choice mem_all name_injective

theorem Tier.lawful_codec : Tier.codec.Lawful :=
  Codec.lawful_choice mem_all name_injective

theorem Measures.lawful_codec : Measures.codec.Lawful := by
  apply Codec.lawful_record
  case h =>
    exact ⟨Codec.lawful_count, Codec.lawful_count, Codec.lawful_count, Codec.lawful_count,
      Codec.lawful_count, Codec.lawful_count, Tier.lawful_codec, trivial⟩
  case hkeys => decide
  case hmake => exact fun _ => rfl

/-- **An explanation is read from its written form.** -/
theorem Explanation.lawful_codec : Explanation.codec.Lawful := by
  apply Codec.lawful_record
  case h =>
    exact ⟨Codec.lawful_text, Codec.lawful_text, Language.lawful_codec, Codec.lawful_text,
      Measures.lawful_codec, trivial⟩
  case hkeys => decide
  case hmake => exact fun _ => rfl

namespace Program

open Sandbox

variable {palette : Palette} {settings : Settings} {code : Text} {e : Explanation}

/-- A line end behind an explanation makes no difference to what is read. -/
theorem parse_printed (palette : Palette) (e : Explanation) :
    Explanation.codec.parse (layOut palette e .json ++ ['\n']) = .ok e := by
  have hnone : Cursor.IsSpace [] := List.forall_mem_nil _
  have hend : Cursor.IsSpace ['\n'] := by simp [Cursor.IsSpace, Cursor.isSpace]
  simpa [layOut] using Explanation.lawful_codec.parse_space_append e hnone hend

/-- **What is printed of an explanation is read as the explanation**, field for field.  The snippet
may come from a file or from the standard input; nothing but the record is printed, notices apart. -/
theorem explainSnippet_json (palette : Palette) (he : Explanation.ofCode settings code = .ok e) :
    ∃ printed, Explanation.codec.parse printed = .ok e ∧
      ∀ (path? : Option Text) (s s' : Sandbox), s.run (readSnippet path?) = (.ok code, s') →
        ∃ notices, s.run (explainSnippet palette settings path? .json) = (.success,
          { s' with output := s'.output ++ printed, errors := s'.errors ++ notices }) := by
  refine ⟨layOut palette e .json ++ ['\n'], parse_printed palette e, ?_⟩
  intro path? s s' hread
  exact explainSnippet_of_ok hread he

/-- A snippet with quotes, a backslash, controls, a character of four octets and a record of its own,
given on the standard input. -/
theorem explainSnippet_json_quoted :
    let code : Text := "x = \"a\\tb\"\t\x00\x1f\r\n😀 \x7b\"code\": null\x7d\u2028\n".toList
    ∃ (e : Explanation) (printed : Text) (notices : Text), Explanation.ofCode {} code = .ok e ∧
      Explanation.codec.parse printed = .ok e ∧
      Sandbox.run { input := Utf8.encode code } (explainSnippet .plain {} none .json) =
        (.success, { output := printed, errors := notices }) := by
  intro code
  have hok : (Explanation.ofCode {} code).isOk = true := by decide +kernel
  cases he : Explanation.ofCode {} code with
  | error overflow =>
    rw [he] at hok
    cases hok
  | ok e =>
    have hread : Sandbox.run { input := Utf8.encode code } (readSnippet none) = (.ok code, {}) := by
      decide +kernel
    obtain ⟨printed, hparse, hprinted⟩ := explainSnippet_json .plain he
    obtain ⟨notices, hrun⟩ := hprinted none _ _ hread
    exact ⟨e, printed, notices, rfl, hparse, hrun⟩

end Program
end CodeGloss
