import CodeGloss.Files.Fault
import CodeGloss.Json.Fault
import CodeGloss.Settings

/-! # Failures

What can fail when settings are loaded or saved or a conversation is read.  A failure is told in one
sentence; where it has a reason of its own kind, the reason can be told once more behind it.
-/

namespace CodeGloss

open Text

/-- What failed. -/
inductive Failure
  /-- A file or an input. -/
  | file (fault : FileFault)
  /-- The text of settings. -/
  | malformed (fault : Json.Fault)
  /-- The thresholds of settings. -/
  | conflict (thresholds : ThresholdConflict)
  deriving DecidableEq, Repr

/-- What users are told of thresholds that conflict. -/
def ThresholdConflict.message (t : ThresholdConflict) : Text :=
  "medium_threshold (".toList ++ decimal64 t.medium ++ ") must be below high_threshold (".toList ++
    decimal64 t.high ++ ")".toList

namespace Failure

/-- The sentence that tells a failure. -/
def message : Failure → Text
  | file fault => "I/O error: ".toList ++ fault.message
  | malformed fault => "Malformed configuration JSON: ".toList ++ fault.message
  | conflict thresholds => "Invalid configuration: ".toList ++ thresholds.message

/-- The reason behind the sentence. -/
def reason? : Failure → Option Text
  | file fault => some fault.message
  | malformed fault => some fault.message
  | conflict _ => none

/-- The sentence and the reason behind it. -/
def account (f : Failure) : Text :=
  f.message ++ match f.reason? with
    | none => []
    | some reason => ": ".toList ++ reason

end Failure
end CodeGloss
