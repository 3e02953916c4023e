import CodeGloss.Failure
import CodeGloss.Host
import CodeGloss.Settings.Format

/-! # Stored settings

Settings are stored in files.  They are looked for in the working folder under three names and then
in the folder for the settings of the user; the first of these places that is a file is used, even
if it cannot be understood.  Settings that are read are in order.
-/

namespace CodeGloss
namespace Settings

/-- The settings, if they are in order. -/
def inOrder (s : Settings) : Except Failure Settings :=
  match s.conflict? with
  | some conflict => .error (.conflict conflict)
  | none => .ok s

theorem inOrder_eq_ok_iff {given s : Settings} :
    given.inOrder = .ok s ↔ s = given ∧ given.conflict? = none := by
  unfold inOrder
  cases given.conflict? with
  | some conflict => simp
  | none => simp [eq_comm]

/-- The settings that a text stands for, if they are in order. -/
def ofText (t : Text) : Except Failure Settings :=
  match codec.parse t with
  | .error fault => .error (.malformed fault)
  | .ok s => s.inOrder

/-- The settings that the content of a file stands for, if they are in order. -/
def ofContent (content : List UInt8) : Except Failure Settings :=
  match textOf content with
  | .error fault => .error (.file fault)
  | .ok t => ofText t

/-- The text that settings are stored as. -/
def toText (s : Settings) : Text :=
  codec.render s

/-- Where settings are looked for in the working folder. -/
def workingPaths : List Text :=
  [".humanizer.json".toList, "humanizer.json".toList, ".humanizer/config.json".toList]

/-- Where new settings are written. -/
def newPath : Text :=
  ".humanizer.json".toList

/-- Where settings are looked for in the folder for the settings of the user. -/
def personalPath : Text :=
  "humanizer/config.json".toList

variable {m : Type → Type} [Monad m] [Host m]

/-- The first of the places that is a file. -/
def firstFile? : List Place → m (Option Place)
  | [] => return none
  | place :: later => do if ← Host.hasFile place.path then return some place else firstFile? later

/-- The place of the stored settings, if there are any. -/
def stored? : m (Option Place) := do
  let userFolder? ← Host.userFolder?
  firstFile? (workingPaths.map Place.ofPath ++ userFolder?.toList.map (·.below personalPath))

/-- Reads settings from a file. -/
def readFrom (path : Text) : m (Except Failure Settings) := do
  match ← Host.readFile path with
  | .error fault => return .error (.file fault)
  | .ok content => return ofContent content

/-- Reads the stored settings; if there are none, the settings are the default ones. -/
def current : m (Except Failure Settings) := do
  match ← stored? with
  | some place => readFrom place.path
  | none => return .ok {}

/-- Stores settings in a file. -/
def writeTo (s : Settings) (path : Text) : m (Except Failure Unit) := do
  match ← Host.writeFile path (Utf8.encode s.toText) with
  | .error fault => return .error (.file fault)
  | .ok () => return .ok ()

end Settings
end CodeGloss
