import CodeGloss.Proofs.Files.Tree
import CodeGloss.Proofs.Json.Record
import CodeGloss.Proofs.Text.Utf8
import CodeGloss.Settings.Store
import Mathlib.Data.List.Basic

/-! # Settings that are stored and read again

Settings are read from the text that they are stored as, every field of them (`parse_toText`).
Reading then checks that they are in order, which storing does not: settings in order come back as
they were, and others are refused for their thresholds (`load_save`).

What becomes of the text on the way is up to the host.  All that is asked of it is that a file that
has just been written has the content that was written (`Host.Keeps`).  A sandbox does so for the
files below its working folder (`Sandbox.keeps_below`).
-/
namespace CodeGloss

open Text Json

/-! ## The text of settings -/

theorem Scoring.lawful_codec : Scoring.codec.Lawful := by
  unfold Scoring.codec
  apply Codec.lawful_record
  case h =>
    exact ⟨Codec.lawful_count, Codec.lawful_count, Codec.lawful_count, Codec.lawful_count, trivial⟩
  case hkeys => decide
  case hmake => exact fun _ => rfl

theorem Gloss.Options.lawful_codec : Gloss.Options.codec.Lawful := by
  unfold Gloss.Options.codec
  apply Codec.lawful_record
  case h => exact ⟨Codec.lawful_flag, trivial⟩
  case hkeys => decide
  case hmake => exact fun _ => rfl

namespace Settings

theorem lawful_codec : codec.Lawful := by
  apply Codec.lawful_record
  case h => exact ⟨Scoring.lawful_codec, Gloss.Options.lawful_codec, trivial⟩
  case hkeys => decide
  case hmake => exact fun _ => rfl

/-- **Settings are read from the text that they are stored as.** -/
theorem parse_toText (s : Settings) : codec.parse s.toText = .ok s :=
  lawful_codec.parse_render s

theorem ofContent_toText (s : Settings) : ofContent (Utf8.encode s.toText) = s.inOrder := by
  rw [ofContent, textOf, Utf8.decode_encode]
  dsimp only
  rw [ofText, parse_toText]

theorem inOrder_of_lt {s : Settings} (h : s.scoring.mediumThreshold < s.scoring.highThreshold) :
    s.inOrder = .ok s := by
  rw [inOrder, conflict?, if_pos h]

theorem inOrder_of_not_lt {s : Settings}
    (h : ¬ s.scoring.mediumThreshold < s.scoring.highThreshold) :
    s.inOrder = .error (.conflict ⟨s.scoring.mediumThreshold, s.scoring.highThreshold⟩) := by
  rw [inOrder, conflict?, if_neg h]

theorem ofText_eq_ok_iff {t : Text} {s : Settings} :
    ofText t = .ok s ↔ codec.parse t = .ok s ∧ s.inOrder = .ok s := by
  rw [ofText]
  cases codec.parse t with
  | error fault => simp
  | ok given =>
    simp only [Except.ok.injEq]
    constructor
    · intro h
      obtain rfl := (inOrder_eq_ok_iff.mp h).1
      exact ⟨rfl, h⟩
    · rintro ⟨rfl, h⟩
      exact h

/-- Settings that were read are in order. -/
theorem inOrder_of_ofContent {content : List UInt8} {s : Settings} (h : ofContent content = .ok s) :
    s.inOrder = .ok s := by
  unfold ofContent at h
  split at h
  next => cases h
  next => exact (ofText_eq_ok_iff.mp h).2

end Settings

/-! ## Hosts that keep what is written -/

/-- **The host keeps what is written** to a path: when the file is read at once, it has the content
that was written. -/
def Host.Keeps (m : Type → Type) [Monad m] [Host m] (path : Text) : Prop :=
  ∀ content : List UInt8,
    (do ExceptT.mk (writeFile path content); ExceptT.mk (readFile path) :
      ExceptT FileFault m (List UInt8)) =
    do ExceptT.mk (writeFile path content); return content

namespace Sandbox

variable {path : Text} {content : List UInt8} {s : Sandbox}

theorem writeFile_of_error {fault : FileFault}
    (h : s.tree.write path content = .error fault) :
    (Host.writeFile path content : StateM Sandbox _).run s = (.error fault, s) := by
  simp [Host.writeFile, h]
  rfl

theorem writeFile_of_ok {tree : FileTree} (h : s.tree.write path content = .ok tree) :
    (Host.writeFile path content : StateM Sandbox _).run s = (.ok (), { s with tree }) := by
  simp [Host.writeFile, h]
  rfl

/-- A sandbox keeps the files below its working folder. -/
theorem keeps_below (hrooted : Path.isRooted path = false) (hup : Path.up ∉ Path.names path) :
    Host.Keeps (StateM Sandbox) path := by
  intro content
  apply ExceptT.ext
  apply StateT.ext
  intro s
  simp only [ExceptT.run_bind, StateT.run_bind, ExceptT.run_mk]
  cases hwrite : s.tree.write path content with
  | error fault =>
    rw [writeFile_of_error hwrite]
    rfl
  | ok tree =>
    have hread : tree.read path = .ok content := FileTree.read_of_write_below hrooted hup hwrite
    rw [writeFile_of_ok hwrite]
    exact congrArg (·, { s with tree }) hread

end Sandbox

/-! ## Storing and reading -/

namespace Settings

variable {m : Type → Type} [Monad m] [Host m] {path : Text}

/-- Stores settings in a file, as a program that can fail. -/
def save (s : Settings) (path : Text) : ExceptT Failure m Unit :=
  ExceptT.mk (s.writeTo path)

/-- Reads settings from a file, as a program that can fail. -/
def load (path : Text) : ExceptT Failure m Settings :=
  ExceptT.mk (readFrom path)

/-- What is understood of the content of a file, or of the fault of reading it. -/
def understood : Except FileFault (List UInt8) → Except Failure Settings
  | .error fault => .error (.file fault)
  | .ok content => ofContent content

/-- Settings that are read at once are those that were stored, if they are in order. -/
theorem save_bind_load [LawfulMonad m] (hkeeps : Host.Keeps m path) (s : Settings) :
    (do s.save path; load path : ExceptT Failure m Settings) =
      (do s.save path; ExceptT.mk (pure s.inOrder)) := by
  apply ExceptT.ext
  -- both programs write the file and then understand what is read of it
  calc (do s.save path; load path : ExceptT Failure m Settings).run
      = understood <$> (do
          ExceptT.mk (Host.writeFile path (Utf8.encode s.toText))
          ExceptT.mk (Host.readFile path) : ExceptT FileFault m (List UInt8)).run := by
        simp only [save, load, writeTo, readFrom, ExceptT.run_bind, ExceptT.run_mk, map_bind,
          bind_assoc]
        refine bind_congr fun r => ?_
        cases r with
        | error fault => simp [understood]
        | ok _ =>
          simp only [pure_bind, map_eq_pure_bind]
          refine bind_congr fun r => ?_
          cases r <;> rfl
    _ = understood <$> (do
          ExceptT.mk (Host.writeFile path (Utf8.encode s.toText))
          return Utf8.encode s.toText : ExceptT FileFault m (List UInt8)).run := by
        rw [hkeeps]
    _ = (do s.save path; ExceptT.mk (pure s.inOrder) : ExceptT Failure m Settings).run := by
        simp only [save, writeTo, ExceptT.run_bind, ExceptT.run_mk, ExceptT.run_pure, map_bind,
          bind_assoc]
        refine bind_congr fun r => ?_
        cases r with
        | error fault => simp [understood]
        | ok _ => simp [understood, ofContent_toText]

/-- **Settings come back as they were stored, if they are in order**; others are refused for their
thresholds.  Settings that were read from any file are in order, so when they are stored, read and
stored again, the second file has the octets of the first. -/
theorem load_save [LawfulMonad m] (hkeeps : Host.Keeps m path) :
    (∀ s : Settings, s.scoring.mediumThreshold < s.scoring.highThreshold →
      (do s.save path; load path : ExceptT Failure m Settings) = (do s.save path; return s)) ∧
    (∀ s : Settings, ¬ s.scoring.mediumThreshold < s.scoring.highThreshold →
      (do s.save path; load path : ExceptT Failure m Settings) =
        (do s.save path
            throw (.conflict ⟨s.scoring.mediumThreshold, s.scoring.highThreshold⟩))) ∧
    ∀ (content : List UInt8) (s : Settings), ofContent content = .ok s →
      ofContent (Utf8.encode s.toText) = .ok s ∧
      (do s.save path; load path : ExceptT Failure m Settings) = (do s.save path; return s) ∧
      (do s.save path; (← load path).save path : ExceptT Failure m Unit) =
        (do s.save path; s.save path) := by
  have hloaded (s : Settings) (h : s.inOrder = .ok s) :
      (do s.save path; load path : ExceptT Failure m Settings) = (do s.save path; return s) := by
    rw [save_bind_load hkeeps, h]
    rfl
  refine ⟨fun s hlt => hloaded s (inOrder_of_lt hlt), fun s hlt => ?_, fun content s h => ?_⟩
  · rw [save_bind_load hkeeps, inOrder_of_not_lt hlt]
    rfl
  · have horder : s.inOrder = .ok s := inOrder_of_ofContent h
    refine ⟨(ofContent_toText s).trans horder, hloaded s horder, ?_⟩
    rw [← bind_assoc, hloaded s horder, bind_assoc]
    simp only [pure_bind]

/-- In an empty sandbox: settings with the least and the greatest number, settings whose thresholds
conflict, and settings that were read from another text. -/
theorem load_save_sandbox :
    let extreme : Settings := ⟨⟨18446744073709551615, 0, 0, 1⟩, ⟨true⟩⟩
    let even : Settings := ⟨⟨5, 10, 20, 20⟩, ⟨false⟩⟩
    let given : Text := "\x7b\"other\": [null], \"scoring\": \x7b\"class_weight\": 0\x7d\x7d".toList
    let read : Settings := ⟨⟨5, 0, 20, 50⟩, ⟨false⟩⟩
    ((do extreme.save newPath; load newPath :
      ExceptT Failure (StateM Sandbox) Settings).run.run {}).1 = .ok extreme ∧
    ((do even.save newPath; load newPath :
      ExceptT Failure (StateM Sandbox) Settings).run.run {}).1 = .error (.conflict ⟨20, 20⟩) ∧
    ofContent (Utf8.encode given) = .ok read ∧
    ((do read.save newPath; (← load newPath).save newPath :
      ExceptT Failure (StateM Sandbox) Unit).run.run {}).2.tree.read newPath =
        .ok (Utf8.encode read.toText) := by
  intro extreme even given read
  have hkeeps : Host.Keeps (StateM Sandbox) newPath := Sandbox.keeps_below (by decide) (by decide)
  obtain ⟨hsame, hconflict, hread⟩ := load_save hkeeps
  have hgiven : ofContent (Utf8.encode given) = .ok read := by decide +kernel
  refine ⟨?_, ?_, hgiven, ?_⟩
  · rw [hsame extreme (by decide)]
    decide +kernel
  · rw [hconflict even (by decide)]
    decide +kernel
  · rw [(hread _ read hgiven).2.2]
    decide +kernel

end Settings
end CodeGloss
