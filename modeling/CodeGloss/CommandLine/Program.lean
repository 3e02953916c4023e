import CodeGloss.CommandLine.Invocation
import CodeGloss.Explanation.Format
import CodeGloss.Notice
import CodeGloss.Settings.Store

/-! # The program

What the program does for an invocation, on any host.  The settings are read first, whatever the
task; if that fails, nothing else is done.  Results go to the standard output, notices to the
standard error, and the exit status tells how it went.
-/

namespace CodeGloss

open Text

/-- The exit statuses of the program. -/
inductive ExitStatus
  /-- All went well. -/
  | success
  /-- Something failed, and a notice tells what. -/
  | failure
  /-- The arguments do not fit. -/
  | misuse
  /-- A score did not fit in 64 bits. -/
  | overflow
  deriving DecidableEq, Repr

/-- The number of an exit status. -/
def ExitStatus.code : ExitStatus → Nat
  | success => 0
  | failure => 1
  | misuse => 2
  | overflow => 101

namespace Program

variable {m : Type → Type} [Monad m] [Host m]

/-- Writes a notice. -/
def notify (palette : Palette) (level : Notice.Level) (message : Text) : m Unit :=
  Host.printError (Notice.render palette level message)

/-- Tells a failure, and exits. -/
def fail (palette : Palette) (message : Text) : m ExitStatus := do
  notify palette .failure message
  return .failure

/-- Writes a text and a line end to the standard output. -/
def printLine (t : Text) : m Unit :=
  Host.print (t ++ ['\n'])

/-- Reads the settings from the given file, or the stored ones; a failure is told in words. -/
def settingsFor (path? : Option Text) : m (Except Text Settings) := do
  match path? with
  | some path =>
    match ← Settings.readFrom path with
    | .ok s => return .ok s
    | .error failure =>
      return .error
        ("Failed to load configuration from ".toList ++ path ++ ": ".toList ++ failure.account)
  | none =>
    match ← Settings.current with
    | .ok s => return .ok s
    | .error failure => return .error ("Failed to load configuration: ".toList ++ failure.account)

/-- Holds a conversation. -/
def holdConversation (palette : Palette) (settings : Settings) : m ExitStatus := do
  let loop ← Host.converse palette { settings }
  match loop.ending with
  | some (.unreadable fault) => fail palette (Failure.file (.lineNotUtf8 fault)).account
  | some (.overflow _) => return .overflow
  | _ => return .success

/-- A snippet to show what the program does. -/
def sampleCode : Text :=
  "def calc_total(nums, tax):\n".toList ++
  "    total = 0\n".toList ++
  "    for n in nums:\n".toList ++
  "        total += n\n".toList ++
  "    return total + total * tax\n".toList

/-- Explains the sample step by step. -/
def explainSample (palette : Palette) (settings : Settings) : m ExitStatus := do
  match Explanation.ofCode settings sampleCode with
  | .error _ => return .overflow
  | .ok e =>
    printLine (framed "Code Humanizer demo".toList 45 '~' ++ ['\n'])
    printLine (e.renderStepByStep palette)
    return .success

/-- The path that stands for the standard input. -/
def inputPath : Text :=
  "-".toList

/-- Reads a snippet from a file or from the standard input; a failure is told in words. -/
def readSnippet (path? : Option Text) : m (Except Text Text) := do
  match path?.filter fun path => !Path.sameNames path inputPath with
  | some path =>
    match (← Host.readFile path) >>= textOf with
    | .ok t => return .ok t
    | .error fault =>
      return .error ("Failed to read ".toList ++ path ++ ": ".toList ++ fault.message)
  | none =>
    match textOf (← Host.readInput) with
    | .ok t => return .ok t
    | .error fault => return .error ("Failed to read stdin: ".toList ++ fault.message)

/-- An explanation in a layout. -/
def layOut (palette : Palette) (e : Explanation) : Layout → Text
  | .pretty => e.render palette
  | .json => Explanation.codec.render e

/-- Explains the snippet in a file or on the standard input. -/
def explainSnippet (palette : Palette) (settings : Settings) (path? : Option Text)
    (layout : Layout) : m ExitStatus := do
  match ← readSnippet path? with
  | .error message => fail palette message
  | .ok code =>
    match Explanation.ofCode settings code with
    | .error _ => return .overflow
    | .ok e =>
      if e.language = .unknown then
        notify palette .warning
          "Could not guess the language, falling back to '#' comments".toList
      printLine (layOut palette e layout)
      return .success

/-- Prints the settings, and tells where they come from. -/
def printSettings (palette : Palette) (settings : Settings) (path? : Option Text) :
    m ExitStatus := do
  let place? ← match path? with
    | some path => pure (some (Place.ofPath path))
    | none => Settings.stored?
  if let some place := place? then
    notify palette .information ("Using configuration from ".toList ++ place.shown)
  printLine settings.toText
  return .success

/-- Writes a file with the default settings, unless there is something of its name. -/
def writeNewSettings (palette : Palette) : m ExitStatus := do
  if ← Host.hasNode Settings.newPath then
    fail palette (Settings.newPath ++ " already exists, refusing to overwrite it".toList)
  else
    match ← Settings.writeTo {} Settings.newPath with
    | .error failure => fail palette failure.account
    | .ok () =>
      notify palette .success ("Wrote default configuration to ".toList ++ Settings.newPath)
      return .success

/-- Does what an invocation asks for. -/
def perform (palette : Palette) (invocation : Invocation) : m ExitStatus := do
  let palette := if invocation.plain then .plain else palette
  match ← settingsFor invocation.settingsPath with
  | .error message => fail palette message
  | .ok settings =>
    match invocation.task with
    | .chat => holdConversation palette settings
    | .demo => explainSample palette settings
    | .annotate path? layout => explainSnippet palette settings path? layout
    | .config true => writeNewSettings palette
    | .config false => printSettings palette settings invocation.settingsPath

/-- The name and the version of the program. -/
def versionLine : Text :=
  "humanizer 0.1.0".toList

/-- How the program is used. -/
def usageLine : Text :=
  "Usage: humanizer [OPTIONS] [chat | demo | annotate [PATH] | config]".toList

/-- Does what a list of arguments asks for. -/
def run (palette : Palette) (arguments : List Text) : m ExitStatus := do
  match CommandLine.read arguments with
  | .run invocation => perform palette invocation
  | .version =>
    printLine versionLine
    return .success
  | .help =>
    printLine usageLine
    return .success
  | .misuse =>
    Host.printError (usageLine ++ ['\n'])
    return .misuse

end Program
end CodeGloss
