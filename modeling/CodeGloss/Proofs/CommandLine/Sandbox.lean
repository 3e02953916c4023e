import CodeGloss.CommandLine.Program
import CodeGloss.Proofs.Settings.Store

/-! # The program in a sandbox

What the parts of the program do to a sandbox.  Looking for settings and reading them leaves it as it
is (`Looks`).  Notices go to the standard error alone and reading a snippet takes input, so the files
and the standard output are as they were (`Kept`).

A run that fails only looks, reads and tells what failed.  So it has changed no file and written
nothing to the standard output (`Program.failsUnchanged_perform`); what prints or writes a file comes
last, and nothing fails behind it.  Conversations are apart: they show answers before input fails.
-/
namespace CodeGloss

open Text

/-- The settings of a run: those in the given file, or else the stored ones. -/
def Settings.chosen {m : Type → Type} [Monad m] [Host m] (path? : Option Text) :
    m (Except Failure Settings) :=
  match path? with
  | some path => readFrom path
  | none => current

namespace Sandbox

variable {α β : Type} {s s' s'' : Sandbox}

/-- What a program comes to in a sandbox: its result, and the sandbox behind it. -/
def run (s : Sandbox) (x : StateM Sandbox α) : α × Sandbox :=
  StateT.run x s

/-! ## What a program leaves as it is -/

/-- A program goes on where its first part has come to. -/
theorem run_bind {x : StateM Sandbox α} {a : α} (h : s.run x = (a, s'))
    (f : α → StateM Sandbox β) : s.run (x >>= f) = s'.run (f a) := by
  have hrun : StateT.run x s = (a, s') := h
  rw [run, StateT.run_bind, hrun]
  rfl

theorem run_bind_eq (s : Sandbox) (x : StateM Sandbox α) (f : α → StateM Sandbox β) :
    s.run (x >>= f) = (s.run x).2.run (f (s.run x).1) :=
  run_bind rfl f

/-- The program looks at the sandbox and changes nothing. -/
def Looks (x : StateM Sandbox α) : Prop :=
  ∀ s : Sandbox, (s.run x).2 = s

/-- **The files and the standard output are as they were**; input may have been taken and notices
written. -/
structure Kept (s s' : Sandbox) : Prop where
  tree : s'.tree = s.tree
  output : s'.output = s.output

theorem Kept.refl (s : Sandbox) : Kept s s :=
  ⟨rfl, rfl⟩

theorem Kept.trans (h : Kept s s') (h' : Kept s' s'') : Kept s s'' :=
  ⟨h'.tree.trans h.tree, h'.output.trans h.output⟩

theorem Looks.run_eq {x : StateM Sandbox α} (h : Looks x) (s : Sandbox) :
    s.run x = ((s.run x).1, s) :=
  Prod.ext rfl (h s)

theorem looks_pure (a : α) : Looks (pure a) :=
  fun _ => rfl

theorem Looks.bind {x : StateM Sandbox α} {f : α → StateM Sandbox β} (hx : Looks x)
    (hf : ∀ a, Looks (f a)) : Looks (x >>= f) := by
  intro s
  rw [run_bind (hx.run_eq s)]
  exact hf _ s

/-! ## Settings -/

theorem looks_readFrom (path : Text) : Looks (Settings.readFrom path) := by
  refine Looks.bind (fun _ => rfl) fun r => ?_
  cases r <;> exact looks_pure _

theorem looks_firstFile? (places : List Place) : Looks (Settings.firstFile? places) := by
  induction places with
  | nil => exact looks_pure none
  | cons place later ih =>
    refine Looks.bind (fun _ => rfl) fun found => ?_
    cases found
    · exact ih
    · exact looks_pure (some place)

theorem looks_stored? : Looks Settings.stored? :=
  Looks.bind (fun _ => rfl) fun _ => looks_firstFile? _

theorem looks_chosen (path? : Option Text) : Looks (Settings.chosen path?) := by
  cases path? with
  | some path => exact looks_readFrom path
  | none =>
    refine looks_stored?.bind fun place? => ?_
    cases place? with
    | none => exact looks_pure _
    | some place => exact looks_readFrom place.path

variable {path? : Option Text} {settings : Settings}

theorem settingsFor_of_ok (h : (s.run (Settings.chosen path?)).1 = .ok settings) :
    s.run (Program.settingsFor path?) = (.ok settings, s) := by
  have hrun := (looks_chosen path?).run_eq s
  rw [h] at hrun
  cases path? <;> exact run_bind hrun _

theorem settingsFor_of_error {failure : Failure}
    (h : (s.run (Settings.chosen path?)).1 = .error failure) :
    ∃ message, s.run (Program.settingsFor path?) = (.error message, s) := by
  have hrun := (looks_chosen path?).run_eq s
  rw [h] at hrun
  cases path? <;> exact ⟨_, run_bind hrun _⟩

theorem looks_settingsFor (path? : Option Text) : Looks (Program.settingsFor path?) := by
  intro s
  cases h : (s.run (Settings.chosen path?)).1 with
  | ok settings => rw [settingsFor_of_ok h]
  | error failure =>
    obtain ⟨message, hrun⟩ := settingsFor_of_error h
    rw [hrun]

theorem run_writeTo_of_error {path : Text} {fault : FileFault}
    (h : s.tree.write path (Utf8.encode settings.toText) = .error fault) :
    s.run (settings.writeTo path) = (.error (.file fault), s) :=
  run_bind (writeFile_of_error h) _

theorem run_writeTo_of_ok {path : Text} {tree : FileTree}
    (h : s.tree.write path (Utf8.encode settings.toText) = .ok tree) :
    s.run (settings.writeTo path) = (.ok (), { s with tree }) :=
  run_bind (writeFile_of_ok h) _

end Sandbox

namespace Program

open Sandbox

variable {palette : Palette} {settings : Settings} {path? : Option Text} {layout : Layout}
  {invocation : Invocation} {code : Text} {e : Explanation} {s s' : Sandbox}

/-! ## Notices and results -/

theorem run_notify (palette : Palette) (level : Notice.Level) (message : Text) (s : Sandbox) :
    s.run (notify palette level message) =
      ((), { s with errors := s.errors ++ Notice.render palette level message }) :=
  rfl

theorem run_printLine (t : Text) (s : Sandbox) :
    s.run (printLine t) = ((), { s with output := s.output ++ (t ++ ['\n']) }) :=
  rfl

theorem kept_fail (palette : Palette) (message : Text) (s : Sandbox) :
    Kept s (s.run (fail palette message)).2 :=
  ⟨rfl, rfl⟩

/-- Reading a snippet takes input at most. -/
theorem kept_readSnippet (path? : Option Text) (s : Sandbox) :
    Kept s (s.run (readSnippet path?)).2 := by
  unfold readSnippet
  split
  next path _ =>
    have hread : s.run (Host.readFile path) = (s.tree.read path, s) := rfl
    rw [run_bind hread]
    split <;> exact Kept.refl s
  next =>
    have hread : s.run Host.readInput = (s.input, { s with input := [] }) := rfl
    rw [run_bind hread]
    split <;> exact ⟨rfl, rfl⟩

/-- **An explanation is printed in its layout with a line end**, and there may be a notice. -/
theorem explainSnippet_of_ok (hread : s.run (readSnippet path?) = (.ok code, s'))
    (he : Explanation.ofCode settings code = .ok e) :
    ∃ notices, s.run (explainSnippet palette settings path? layout) = (.success,
      { s' with
        output := s'.output ++ (layOut palette e layout ++ ['\n'])
        errors := s'.errors ++ notices }) := by
  rw [explainSnippet, run_bind hread]
  simp only [he]
  -- there is a notice if the language could not be guessed
  by_cases hlanguage : e.language = .unknown
  · rw [if_pos hlanguage, run_bind (run_notify ..), run_bind (run_printLine ..)]
    exact ⟨_, rfl⟩
  · rw [if_neg hlanguage, run_bind (run_printLine ..)]
    exact ⟨[], by rw [List.append_nil]; rfl⟩

/-! ## Runs that fail -/

/-- **Where the program fails it has changed no file and printed nothing.** -/
def FailsUnchanged (x : StateM Sandbox ExitStatus) : Prop :=
  ∀ s : Sandbox, (s.run x).1 = .failure → Kept s (s.run x).2

/-- The program ends in some other way than with a failure. -/
def NeverFails (x : StateM Sandbox ExitStatus) : Prop :=
  ∀ s : Sandbox, (s.run x).1 ≠ .failure

theorem failsUnchanged_fail (palette : Palette) (message : Text) :
    FailsUnchanged (fail palette message) :=
  fun s _ => kept_fail palette message s

theorem neverFails_pure {status : ExitStatus} (h : status ≠ .failure) :
    NeverFails (pure status) :=
  fun _ => h

section Steps

variable {α : Type} {x : StateM Sandbox α} {f : α → StateM Sandbox ExitStatus}

theorem NeverFails.bind (hf : ∀ a, NeverFails (f a)) : NeverFails (x >>= f) := by
  intro s
  rw [run_bind_eq]
  exact hf _ _

theorem NeverFails.failsUnchanged {x : StateM Sandbox ExitStatus} (h : NeverFails x) :
    FailsUnchanged x :=
  fun s hfailure => absurd hfailure (h s)

/-- If the first part of a program keeps all, it is up to what follows. -/
theorem FailsUnchanged.bind (hx : ∀ s, Kept s (s.run x).2) (hf : ∀ a, FailsUnchanged (f a)) :
    FailsUnchanged (x >>= f) := by
  intro s hfailure
  rw [run_bind_eq] at hfailure ⊢
  exact (hx s).trans (hf _ _ hfailure)

end Steps

theorem neverFails_explainSample (palette : Palette) (settings : Settings) :
    NeverFails (explainSample palette settings) := by
  unfold explainSample
  split
  · exact neverFails_pure (by decide)
  · exact .bind fun _ => .bind fun _ => neverFails_pure (by decide)

theorem neverFails_printSettings (palette : Palette) (settings : Settings)
    (path? : Option Text) : NeverFails (printSettings palette settings path?) := by
  unfold printSettings
  split <;> refine .bind fun place? => ?_
  all_goals
    cases place? with
    | none => exact .bind fun _ => neverFails_pure (by decide)
    | some place => exact .bind fun _ => .bind fun _ => neverFails_pure (by decide)

theorem failsUnchanged_explainSnippet (palette : Palette) (settings : Settings)
    (path? : Option Text) (layout : Layout) :
    FailsUnchanged (explainSnippet palette settings path? layout) := by
  refine .bind (kept_readSnippet path?) fun r => ?_
  cases r with
  | error message => exact failsUnchanged_fail palette message
  | ok code =>
    cases he : Explanation.ofCode settings code with
    | error _ =>
      simp only [he]
      exact (neverFails_pure (by decide)).failsUnchanged
    | ok e =>
      simp only [he]
      apply NeverFails.failsUnchanged
      split
      · exact .bind fun _ => .bind fun _ => neverFails_pure (by decide)
      · exact .bind fun _ => neverFails_pure (by decide)

theorem failsUnchanged_writeNewSettings (palette : Palette) :
    FailsUnchanged (writeNewSettings palette) := by
  unfold writeNewSettings
  refine .bind (fun s => Kept.refl s) fun taken => ?_
  cases taken with
  | true => exact failsUnchanged_fail palette _
  | false =>
    -- what could not be written leaves the tree as it is; what was written is no failure
    intro s hfailure
    cases hwrite : s.tree.write Settings.newPath (Utf8.encode ({} : Settings).toText) with
    | error fault =>
      have hrun := run_writeTo_of_error hwrite
      rw [if_neg Bool.false_ne_true, run_bind hrun]
      exact kept_fail palette _ s
    | ok tree =>
      have hrun := run_writeTo_of_ok hwrite
      rw [if_neg Bool.false_ne_true, run_bind hrun] at hfailure
      cases hfailure

/-- **A run that fails has changed no file and printed nothing**, conversations apart. -/
theorem failsUnchanged_perform (palette : Palette) (hchat : invocation.task ≠ .chat) :
    FailsUnchanged (perform palette invocation) := by
  unfold perform
  refine .bind (fun s => ?_) fun r => ?_
  · rw [looks_settingsFor]
    exact Kept.refl s
  · cases r with
    | error message => exact failsUnchanged_fail _ message
    | ok settings =>
      dsimp only
      cases htask : invocation.task with
      | chat => exact absurd htask hchat
      | demo => exact (neverFails_explainSample _ settings).failsUnchanged
      | annotate path? layout => exact failsUnchanged_explainSnippet _ settings path? layout
      | config writeNew =>
        cases writeNew with
        | true => exact failsUnchanged_writeNewSettings _
        | false => exact (neverFails_printSettings _ settings _).failsUnchanged

end Program
end CodeGloss
