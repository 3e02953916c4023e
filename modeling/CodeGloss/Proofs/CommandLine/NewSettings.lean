import CodeGloss.Proofs.CommandLine.Sandbox

/-! # New settings

A file with the default settings is written if and only if the settings of the run could be read and
there is nothing of its name, file or folder.  Then it is the only node of the tree that changes, and
it is the first place where stored settings are looked for; so from then on the settings of a run are
the default ones, whatever the other files hold, and no other file with new settings is written
(`Program.run_newSettings`).
-/
namespace CodeGloss

open Text Sandbox

/-- The content of a file with the default settings. -/
def Settings.newContent : List UInt8 :=
  Utf8.encode ({} : Settings).toText

theorem Settings.plainName_newPath : FileTree.PlainName newPath where
  checked := by decide
  names := by decide
  notRooted := by decide
  forFile := by decide
  notHere := by decide
  notUp := by decide
  fits := by decide

theorem Settings.ofContent_newContent : ofContent newContent = .ok {} := by
  rw [newContent, ofContent_toText]
  exact inOrder_of_lt (by decide)

namespace Sandbox

variable {s : Sandbox}

/-- There is a file with the default settings in its place. -/
def HasNewSettings (s : Sandbox) : Prop :=
  s.tree.node? [Settings.newPath] = some (.file Settings.newContent)

theorem run_readFrom_newPath (h : s.HasNewSettings) :
    s.run (Settings.readFrom Settings.newPath) = (.ok {}, s) := by
  have hread : s.run (Host.readFile Settings.newPath) = (.ok Settings.newContent, s) :=
    congrArg (·, s) (Settings.plainName_newPath.read_of_file h)
  rw [Settings.readFrom, run_bind hread]
  exact congrArg (·, s) Settings.ofContent_newContent

/-- New settings are looked for first. -/
theorem run_stored?_of_hasNewSettings (h : s.HasNewSettings) :
    s.run Settings.stored? = (some (Place.ofPath Settings.newPath), s) := by
  have hfile : s.run (Host.hasFile Settings.newPath) = (true, s) :=
    congrArg (·, s) (Settings.plainName_newPath.hasFile_of_file h)
  have hfolder : s.run Host.userFolder? = (s.userFolder?, s) := rfl
  rw [Settings.stored?, run_bind hfolder]
  exact run_bind hfile _

/-- **New settings are the stored ones**, whatever the other files hold. -/
theorem run_current_of_hasNewSettings (h : s.HasNewSettings) :
    s.run Settings.current = (.ok {}, s) := by
  rw [Settings.current, run_bind (run_stored?_of_hasNewSettings h)]
  exact run_readFrom_newPath h

end Sandbox

namespace Program

variable {palette : Palette} {settings : Settings} {invocation : Invocation}
  {arguments : List Text} {s : Sandbox}

/-! ## Writing them -/

/-- What is there already is left alone. -/
theorem run_writeNewSettings_of_isSome (palette : Palette)
    (h : (s.tree.node? [Settings.newPath]).isSome = true) :
    (s.run (writeNewSettings palette)).1 = .failure := by
  have htaken : s.run (Host.hasNode Settings.newPath) = (true, s) :=
    congrArg (·, s) ((Settings.plainName_newPath.hasNode_eq s.tree).trans h)
  rw [writeNewSettings, run_bind htaken]
  rfl

/-- Where there is nothing of the name, one file is written and nothing else. -/
theorem run_writeNewSettings_of_none (palette : Palette)
    (h : s.tree.node? [Settings.newPath] = none) :
    ∃ errors, s.run (writeNewSettings palette) = (.success, { s with
      tree := s.tree.put [Settings.newPath] (.file Settings.newContent)
      errors }) := by
  have hnode : s.tree.hasNode Settings.newPath = false := by
    rw [Settings.plainName_newPath.hasNode_eq, h]
    rfl
  have hfree : s.run (Host.hasNode Settings.newPath) = (false, s) := congrArg (·, s) hnode
  have hwrite : s.run (({} : Settings).writeTo Settings.newPath) =
      (.ok (), { s with tree := s.tree.put [Settings.newPath] (.file Settings.newContent) }) :=
    run_writeTo_of_ok (Settings.plainName_newPath.write_of_none h Settings.newContent)
  rw [writeNewSettings, run_bind hfree, if_neg Bool.false_ne_true, run_bind hwrite]
  exact ⟨_, rfl⟩

/-! ## Runs -/

theorem run_eq_perform {m : Type → Type} [Monad m] [Host m]
    (hread : CommandLine.read arguments = .run invocation) :
    (run palette arguments : m ExitStatus) = perform palette invocation := by
  rw [run, hread]

/-- If the settings cannot be read, nothing else is done. -/
theorem run_perform_of_error (palette : Palette) {failure : Failure}
    (h : (s.run (Settings.chosen invocation.settingsPath)).1 = .error failure) :
    (s.run (perform palette invocation)).1 = .failure := by
  obtain ⟨message, hrun⟩ := settingsFor_of_error h
  rw [perform, run_bind hrun]
  rfl

theorem run_perform_of_ok (palette : Palette) (htask : invocation.task = .config true)
    (h : (s.run (Settings.chosen invocation.settingsPath)).1 = .ok settings) :
    ∃ palette', s.run (perform palette invocation) = s.run (writeNewSettings palette') := by
  refine ⟨if invocation.plain then .plain else palette, ?_⟩
  rw [perform, run_bind (settingsFor_of_ok h)]
  dsimp only
  rw [htask]

/-- Where there are new settings, no run writes them again. -/
theorem run_perform_of_hasNewSettings (palette : Palette) (htask : invocation.task = .config true)
    (h : s.HasNewSettings) : (s.run (perform palette invocation)).1 = .failure := by
  cases hchosen : (s.run (Settings.chosen invocation.settingsPath)).1 with
  | error failure => exact run_perform_of_error palette hchosen
  | ok settings =>
    obtain ⟨palette', hrun⟩ := run_perform_of_ok palette htask hchosen
    rw [hrun]
    exact run_writeNewSettings_of_isSome palette' (by rw [h]; rfl)

/-- **Writing new settings succeeds if and only if the settings of the run could be read and there is
nothing of the name.**  Then only that file is new; wherever it is as it was written, the settings are
the default ones and new settings are refused.  A run that fails has changed no file and printed
nothing, and so has every other run that fails, conversations apart. -/
theorem run_newSettings {status : ExitStatus} {after : Sandbox}
    (hread : CommandLine.read arguments = .run invocation)
    (hrun : s.run (run palette arguments) = (status, after)) :
    (invocation.task ≠ .chat → status = .failure → Kept s after) ∧
    (invocation.task = .config true →
      (status = .success ↔
        (∃ settings, (s.run (Settings.chosen invocation.settingsPath)).1 = .ok settings) ∧
          s.tree.node? [Settings.newPath] = none) ∧
      (status ≠ .success → status = .failure) ∧
      (status = .success →
        (∀ route, after.tree.node? route =
          if route = [Settings.newPath] then some (.file (Utf8.encode ({} : Settings).toText))
          else s.tree.node? route) ∧
        ∀ later : Sandbox,
          later.tree.node? [Settings.newPath] = after.tree.node? [Settings.newPath] →
            later.run Settings.current = (.ok {}, later) ∧
            ∀ palette' arguments' invocation', CommandLine.read arguments' = .run invocation' →
              invocation'.task = .config true →
                (later.run (run palette' arguments')).1 = .failure)) := by
  rw [run_eq_perform hread] at hrun
  refine ⟨fun hchat hfailure => ?_, fun htask => ?_⟩
  · have hkept := failsUnchanged_perform palette hchat s
    rw [hrun] at hkept
    exact hkept hfailure
  cases hchosen : (s.run (Settings.chosen invocation.settingsPath)).1 with
  | error failure =>
    obtain rfl : status = .failure := by
      have hfailure := run_perform_of_error palette hchosen
      rwa [hrun] at hfailure
    simp
  | ok settings =>
    obtain ⟨palette', hwrite⟩ := run_perform_of_ok palette htask hchosen
    rw [hwrite] at hrun
    cases hnode : s.tree.node? [Settings.newPath] with
    | some node =>
      obtain rfl : status = .failure := by
        have hfailure := run_writeNewSettings_of_isSome palette' (s := s) (by rw [hnode]; rfl)
        rwa [hrun] at hfailure
      simp
    | none =>
      obtain ⟨errors, hwritten⟩ := run_writeNewSettings_of_none palette' hnode
      obtain ⟨rfl, rfl⟩ := Prod.mk.inj (hrun.symm.trans hwritten)
      refine ⟨by simp, fun hne => absurd rfl hne, fun _ => ?_⟩
      have hput (route : Route) :
          (s.tree.put [Settings.newPath] (.file Settings.newContent)).node? route =
            if route = [Settings.newPath] then some (.file Settings.newContent)
            else s.tree.node? route :=
        FileTree.node?_put (List.cons_ne_nil Settings.newPath []) _ route
      refine ⟨hput, fun later hlater => ?_⟩
      have hnew : later.HasNewSettings := by
        rw [HasNewSettings, hlater, hput, if_pos rfl]
      refine ⟨run_current_of_hasNewSettings hnew, ?_⟩
      intro palette'' arguments' invocation' hread' htask'
      rw [run_eq_perform hread']
      exact run_perform_of_hasNewSettings palette'' htask' hnew

/-- In a folder with settings that cannot be read, new ones are written only if the run has other
settings; then the broken ones no longer matter. -/
theorem run_newSettings_beside_broken :
    let s : Sandbox := { tree := ⟨[
      (["humanizer.json".toList], .file [0xff]), (["own.json".toList], .file [0x7b, 0x7d])]⟩ }
    let refused := ["config".toList, "--init".toList]
    let arguments := ["--config".toList, "own.json".toList] ++ refused
    let after := (s.run (run .plain arguments)).2
    ((s.run (run .plain refused)).1 = .failure ∧ Kept s (s.run (run .plain refused)).2) ∧
      (∀ route, after.tree.node? route =
        if route = [Settings.newPath] then some (.file (Utf8.encode ({} : Settings).toText))
        else s.tree.node? route) ∧
      after.run Settings.current = (.ok {}, after) ∧
      (after.run (run .plain arguments)).1 = .failure := by
  intro s refused arguments after
  have hrefused : CommandLine.read refused = .run { task := .config true } := by
    decide +kernel
  have hread : CommandLine.read arguments =
      .run { settingsPath := some "own.json".toList, task := .config true } := by
    decide +kernel
  have hfailure : (s.run (run .plain refused)).1 = .failure := by decide +kernel
  have hsuccess : (s.run (run .plain arguments)).1 = .success := by decide +kernel
  have hrefusedRun : s.run (run .plain refused) =
      ((s.run (run .plain refused)).1, (s.run (run .plain refused)).2) := rfl
  have hrun : s.run (run .plain arguments) = ((s.run (run .plain arguments)).1, after) := rfl
  obtain ⟨hkept, -⟩ := run_newSettings hrefused hrefusedRun
  obtain ⟨-, hwritten⟩ := run_newSettings hread hrun
  obtain ⟨-, -, hnew⟩ := hwritten rfl
  obtain ⟨htree, hlater⟩ := hnew hsuccess
  obtain ⟨hcurrent, hagain⟩ := hlater after rfl
  exact ⟨⟨hfailure, hkept (by decide) hfailure⟩, htree, hcurrent, hagain .plain _ _ hread rfl⟩

end Program
end CodeGloss
