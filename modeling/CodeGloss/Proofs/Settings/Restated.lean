import CodeGloss.Proofs.Json.Restated
import CodeGloss.Proofs.Settings.Store
import Mathlib.Logic.Relation

/-! # Settings in other words

Settings can be written in many ways that all mean the same: as a whole and in each of the two
sections (`Settings.Restates`).  A text that stands for settings in order can be put in any of these
other words, with any space between the tokens, and stands for the same settings
(`Settings.ofContent_of_restates`).
-/
namespace CodeGloss

open Json

/-! ## Fields -/

/-- The fields of scorings. -/
def Scoring.fields : Fields [UInt64, UInt64, UInt64, UInt64] :=
  let standard : Scoring := {}
  .cons "function_weight".toList .count (some standard.functionWeight) <|
  .cons "class_weight".toList .count (some standard.classWeight) <|
  .cons "medium_threshold".toList .count (some standard.mediumThreshold) <|
  .cons "high_threshold".toList .count (some standard.highThreshold) .nil

/-- The fields of the options of glosses. -/
def Gloss.Options.fields : Fields [Bool] :=
  let standard : Gloss.Options := {}
  .cons "match_indentation".toList .flag (some standard.indented) .nil

/-- The fields of settings, which are the two sections. -/
def Settings.fields : Fields [Scoring, Gloss.Options] :=
  .cons "scoring".toList Scoring.codec (some {}) <|
  .cons "annotation".toList Gloss.Options.codec (some {}) .nil

theorem Scoring.readsRecords_codec : codec.ReadsRecords fields := by
  have hcount : Codec.count.Uniform := Codec.readsBy_count.uniform
  unfold codec
  apply Codec.readsRecords_record
  case h => exact ⟨hcount, hcount, hcount, hcount, trivial⟩
  case hkeys => decide

theorem Gloss.Options.readsRecords_codec : codec.ReadsRecords fields := by
  unfold codec
  apply Codec.readsRecords_record
  case h => exact ⟨Codec.readsBy_flag.uniform, trivial⟩
  case hkeys => decide

namespace Settings

theorem readsRecords_codec : codec.ReadsRecords fields := by
  apply Codec.readsRecords_record
  case h =>
    exact ⟨Scoring.readsRecords_codec.uniform, Gloss.Options.readsRecords_codec.uniform, trivial⟩
  case hkeys => decide

/-! ## Other words -/

variable {f f' g g' : Form} {t t' : Text} {s : Settings}

/-- The second form says of settings what the first one says, in other words: of the settings as a
whole, or within one section. -/
inductive Restates : Form → Form → Prop
  | whole {f f' : Form} : fields.Restates f f' → Restates f f'
  | scoring {f f' g g' : Form} : Scoring.fields.Restates f f' →
      fields.Replaces "scoring".toList f f' g g' → Restates g g'
  | annotation {f f' g g' : Form} : Gloss.Options.fields.Restates f f' →
      fields.Replaces "annotation".toList f f' g g' → Restates g g'

theorem Restates.meaning? (h : Restates f f') (hmeant : codec.meaning? f = some s) :
    codec.meaning? f' = some s := by
  refine readsRecords_codec.meaning?_mono (fun tuple htuple => ?_) hmeant
  cases h with
  | whole hwhole => exact hwhole.meaning? htuple
  | scoring hsection hreplaces =>
    refine hreplaces.meaning? ⟨fun _ a => ?_, fun hother => ?_, trivial⟩ htuple
    · exact Scoring.readsRecords_codec.meaning?_mono fun _ => hsection.meaning?
    · exact absurd hother (by decide)
  | annotation hsection hreplaces =>
    refine hreplaces.meaning? ⟨fun hother => ?_, fun _ a => ?_, trivial⟩ htuple
    · exact absurd hother (by decide)
    · exact Gloss.Options.readsRecords_codec.meaning?_mono fun _ => hsection.meaning?

theorem meaning?_of_reflTransGen (h : Relation.ReflTransGen Restates f f')
    (hmeant : codec.meaning? f = some s) : codec.meaning? f' = some s := by
  induction h with
  | refl => exact hmeant
  | tail _ hstep ih => exact hstep.meaning? ih

/-! ## Stored settings -/

/-- A document stands for the settings that its form means, if they are in order. -/
theorem ofContent_document_iff (h : f.Document t) :
    ofContent (Utf8.encode t) = .ok s ↔ codec.meaning? f = some s ∧ s.inOrder = .ok s := by
  rw [ofContent, textOf, Utf8.decode_encode]
  dsimp only
  rw [ofText_eq_ok_iff, ← readsRecords_codec.uniform.parse_document h, toOption_eq_some_iff]

/-- **Settings mean the same however they are written**: a text that stands for settings in order
can be put in other words, step by step and with any space, and stands for the same settings. -/
theorem ofContent_of_restates (h : f.Document t) (hwords : Relation.ReflTransGen Restates f f')
    (h' : f'.Document t') (hs : ofContent (Utf8.encode t) = .ok s) :
    ofContent (Utf8.encode t') = .ok s := by
  obtain ⟨hmeant, horder⟩ := (ofContent_document_iff h).mp hs
  exact (ofContent_document_iff h').mpr ⟨meaning?_of_reflTransGen hwords hmeant, horder⟩

/-- A scoring becomes a list, with defaults between what was written; the other section and a member
with a number out of all bounds and half a character come in; the members change places. -/
theorem ofContent_reworded :
    let plain : Text :=
      "\x7b\"scoring\":\x7b\"high_threshold\":70,\"function_weight\":3\x7d\x7d".toList
    let reworded : Text :=
      (" \x7b \"Größe\\u000a\" : [ -1e400 , \"\\ud800\" ] , " ++
        "\"annotation\" : \x7b \x7d , \"scoring\" : [ 3 , 10 , 20 , 70 ] \x7d ").toList
    ofContent (Utf8.encode plain) = .ok ⟨⟨3, 10, 20, 70⟩, ⟨false⟩⟩ ∧
      ofContent (Utf8.encode reworded) = .ok ⟨⟨3, 10, 20, 70⟩, ⟨false⟩⟩ := by
  intro plain reworded
  let key (name : String) : StringForm := .ofText name.toList
  let count (n : UInt64) : Form := .number (.ofCount n)
  let given : List (StringForm × Form) :=
    [(key "high_threshold", count 70), (key "function_weight", count 3)]
  let elements : Form := .list [count 3, count 10, count 20, count 70]
  let vast : NumeralForm := { NumeralForm.ofCount 1 with
    minus := true
    exponent? := some ⟨'e', .inl rfl, [], .inl rfl, (NumeralForm.ofCount 400).integer⟩ }
  let half : StringForm := [.unit ⟨13, false⟩ ⟨8, false⟩ ⟨0, false⟩ ⟨0, false⟩]
  let size : StringForm × Form := (key "Größe\n", .list [.number vast, .string half])
  have hkey (name : String) : (key name).meaning? = some name.toList :=
    StringForm.meaning?_ofText name.toList
  have hcount (n : UInt64) : Codec.count.meaning? (count n) = some n :=
    (Codec.readsBy_count.meaning?_eq _).trans (NumeralForm.natural?_ofCount n)
  have hplain : (Form.object [(key "scoring", .object given)]).Document plain :=
    Codec.document_compact _
  have hreworded : (Form.object
      [size, (key "annotation", .object []), (key "scoring", elements)]).Document reworded :=
    Form.document_spaced (Cursor.isSpace_replicate 1) _
  have hlisted : Restates (.object [(key "scoring", .object given)])
      (.object [(key "scoring", elements)]) :=
    .scoring (.listed (.present (.head _) (.absent rfl (hcount 10) (.absent rfl (hcount 20)
      (.present (.head _) (.nil (List.forall_mem_nil _)))))))
      (@Fields.Replaces.member _ _ _ _ _ [] [] _ (hkey "scoring"))
  have hdefault : fields.IsDefault "annotation".toList (.object []) :=
    ⟨fun h => absurd h (by decide), fun _ => ⟨_, rfl, by decide +kernel⟩, trivial⟩
  have hfilled : Restates (.object [(key "scoring", elements)])
      (.object [(key "scoring", elements), (key "annotation", .object [])]) :=
    .whole (@Fields.Restates.filled _ _ [_] [] _ _ _ (hkey "annotation") rfl hdefault)
  have hadded : Restates (.object [(key "scoring", elements), (key "annotation", .object [])])
      (.object [size, (key "scoring", elements), (key "annotation", .object [])]) :=
    .whole (@Fields.Restates.added _ _ [] _ _ _ _ (hkey "Größe\n") (by decide))
  have hreordered : Restates
      (.object [size, (key "scoring", elements), (key "annotation", .object [])])
      (.object [size, (key "annotation", .object []), (key "scoring", elements)]) :=
    .whole (.reordered (.cons _ (.swap _ _ _)))
  have haccepted : ofContent (Utf8.encode plain) = .ok ⟨⟨3, 10, 20, 70⟩, ⟨false⟩⟩ := by
    decide +kernel
  exact ⟨haccepted, ofContent_of_restates hplain
    (.head hlisted (.head hfilled (.head hadded (.single hreordered)))) hreworded haccepted⟩

end Settings
end CodeGloss
