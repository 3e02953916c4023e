import CodeGloss.Conversation.Loop
import CodeGloss.Files.Tree

/-! # Hosts

What the program needs of the system it runs on: files, the standard streams, and someone to drive a
conversation.  A **sandbox** is a host without a system: its files are a tree, its input is given,
and what is written is gathered.
-/

namespace CodeGloss

/-- A path with the form in which users are told it. -/
structure Place where
  /-- The path. -/
  path : Text
  /-- What users are told. -/
  shown : Text
  deriving DecidableEq, Repr

namespace Place

/-- The place of a path that users know as it is. -/
def ofPath (path : Text) : Place :=
  ⟨path, path⟩

/-- A place below a folder. -/
def below (folder : Place) (path : Text) : Place :=
  ⟨folder.path ++ '/' :: path, folder.shown ++ '/' :: path⟩

end Place

/-- What the program needs of the system it runs on. -/
class Host (m : Type → Type) where
  /-- The folder for the settings of the user, if the system has one. -/
  userFolder? : m (Option Place)
  /-- Whether a path leads to a file. -/
  hasFile (path : Text) : m Bool
  /-- Whether a path leads to anything. -/
  hasNode (path : Text) : m Bool
  /-- The content of a file. -/
  readFile (path : Text) : m (Except FileFault (List UInt8))
  /-- Writes a file. -/
  writeFile (path : Text) (content : List UInt8) : m (Except FileFault Unit)
  /-- All that is left of the standard input. -/
  readInput : m (List UInt8)
  /-- Writes to the standard output. -/
  print (t : Text) : m Unit
  /-- Writes to the standard error. -/
  printError (t : Text) : m Unit
  /-- Runs a conversation over the standard input and output. -/
  converse (palette : Palette) (conversation : Conversation) : m Loop

/-- A host without a system. -/
structure Sandbox where
  /-- The files. -/
  tree : FileTree := {}
  /-- The folder for the settings of the user. -/
  userFolder? : Option Place := none
  /-- The standard input. -/
  input : List UInt8 := []
  /-- What has been written to the standard output. -/
  output : Text := []
  /-- What has been written to the standard error. -/
  errors : Text := []
  deriving DecidableEq, Repr

instance : Host (StateM Sandbox) where
  userFolder? := do return (← get).userFolder?
  hasFile path := do return (← get).tree.hasFile path
  hasNode path := do return (← get).tree.hasNode path
  readFile path := do return (← get).tree.read path
  writeFile path content := do
    let s ← get
    match s.tree.write path content with
    | .error fault => return .error fault
    | .ok tree =>
      set { s with tree }
      return .ok ()
  readInput := modifyGet fun s => (s.input, { s with input := [] })
  print t := modify fun s => { s with output := s.output ++ t }
  printError t := modify fun s => { s with errors := s.errors ++ t }
  converse palette conversation := do
    let s ← get
    let (shown, loop) := Loop.run palette conversation (InputEvent.ofInput s.input false)
    set { s with input := [], output := s.output ++ shown }
    return loop

end CodeGloss
