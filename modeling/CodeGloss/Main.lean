import CodeGloss.CommandLine.Program

/-! # The program on a real system

The files, streams and environment of the system the program runs on.  Everything that the program
decides is decided elsewhere; here it is only carried out.
-/

namespace CodeGloss
namespace Main

open Text

/-- What the system says of an operation that failed. -/
def faultOf : IO.Error → FileFault
  | .noFileOrDirectory .. => .notFound
  | .inappropriateType _ 20 _ => .notFolder
  | .inappropriateType .. => .isFolder
  | e => .other (toString e).toList

/-- The result of an operation, or the reason why it failed. -/
def attempt {α : Type} (operation : IO α) : IO (Except FileFault α) := do
  match ← operation.toBaseIO with
  | .ok a => return .ok a
  | .error e => return .error (faultOf e)

/-- The text of a list of characters, as the system takes it. -/
def native (t : Text) : String :=
  String.ofList t

/-- Writes to the standard output at once. -/
def printNow (t : Text) : IO Unit := do
  let stream ← IO.getStdout
  stream.putStr (native t)
  stream.flush

/-- The octets up to the next line feed, with it. -/
partial def readOctets (stream : IO.FS.Stream) (taken : List UInt8) : IO (List UInt8) := do
  match (← stream.read 1).toList with
  | [] => return taken.reverse
  | b :: _ => if b = 10 then return (b :: taken).reverse else readOctets stream (b :: taken)

/-- The next thing that is read from the user. -/
def nextEvent : IO InputEvent := do
  let octets ← readOctets (← IO.getStdin) []
  return if octets.isEmpty then .ended else .ofOctets octets

/-- Runs a conversation until it ends. -/
partial def converse (palette : Palette) (loop : Loop) : IO Loop := do
  if loop.ending.isSome then return loop
  let (shown, loop) := loop.step palette (← nextEvent)
  printNow shown
  converse palette loop

/-- The folder for the settings of the user: the one that is named for it, or else a folder of the
home folder. -/
def userFolder? : IO (Option Place) := do
  if let some folder ← IO.getEnv "XDG_CONFIG_HOME" then
    if folder.startsWith "/" then return some (.ofPath folder.toList)
  match ← IO.getEnv "HOME" with
  | some home =>
    return if home.isEmpty then none else some ((Place.ofPath home.toList).below ".config".toList)
  | none => return none

instance : Host IO where
  userFolder? := userFolder?
  hasFile path := do
    let file := System.mkFilePath [native path]
    return (← file.pathExists) && !(← file.isDir)
  hasNode path := (System.mkFilePath [native path]).pathExists
  readFile path := attempt do return (← IO.FS.readBinFile (System.mkFilePath [native path])).toList
  writeFile path content := attempt do
    IO.FS.writeBinFile (System.mkFilePath [native path]) ⟨content.toArray⟩
  readInput := do return (← (← IO.getStdin).readBinToEnd).toList
  print := printNow
  printError t := do (← IO.getStderr).putStr (native t)
  converse palette conversation := do
    printNow (Loop.greeting ++ Loop.prompt)
    converse palette { conversation }

/-- Whether colours are shown: they can be forced, and else are not. -/
def palette : IO Palette := do
  match ← IO.getEnv "CLICOLOR_FORCE" with
  | some value => return if value = "0" then .plain else .colored
  | none => return .plain

end Main
end CodeGloss

/-- Does what the arguments ask for, and exits with the status of it. -/
def main (arguments : List String) : IO UInt32 := do
  let palette ← CodeGloss.Main.palette
  let status : CodeGloss.ExitStatus ← CodeGloss.Program.run palette (arguments.map String.toList)
  return status.code.toUInt32
