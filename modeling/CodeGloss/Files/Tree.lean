import CodeGloss.Files.Fault
import CodeGloss.Files.Path

/-! # Trees of files

A tree of files and folders below a working folder, looked up by routes: the names that lead to a
node.  A path is followed name by name, and every name on the way must be that of a folder.  Nothing
is known of what lies outside the tree but that there are folders above it.
-/

namespace CodeGloss

open Text

/-- The names that lead from the working folder to a file or folder. -/
abbrev Route := List Text

/-- What a route leads to. -/
inductive Node
  | folder
  | file (content : List UInt8)
  deriving DecidableEq, Repr

/-- The files and folders below a working folder. -/
structure FileTree where
  /-- The nodes, each with its route. -/
  nodes : List (Route × Node) := []
  deriving DecidableEq, Repr

namespace FileTree

/-- What is at the end of a route.  The empty route leads to the working folder. -/
def node? (tree : FileTree) (route : Route) : Option Node :=
  if route.isEmpty then some .folder else tree.nodes.lookup route

/-- The tree with a node at the end of a route, in place of what was there. -/
def put (tree : FileTree) (route : Route) (node : Node) : FileTree :=
  ⟨putIn tree.nodes⟩
where
  /-- The nodes with the new one in its place. -/
  putIn : List (Route × Node) → List (Route × Node)
    | [] => [(route, node)]
    | (r, n) :: later => if route = r then (route, node) :: later else (r, n) :: putIn later

/-- Goes from a folder to one of the names in it, which is made a folder if there is nothing of the
name; none if that leads above the tree. -/
def enterOrMake (reached : FileTree × Route) (name : Text) : Option (FileTree × Route) :=
  let (tree, route) := reached
  if name = Path.here then some (tree, route)
  else if name = Path.up then
    if route.isEmpty then none else some (tree, route.dropLast)
  else
    let route := route ++ [name]
    some (if (tree.node? route).isSome then tree else tree.put route .folder, route)

/-- The tree with a node at the end of a path, in place of what was there, and folders on the way.  A
path that leads above the tree leaves the tree as it is. -/
def add (tree : FileTree) (path : Text) (node : Node) : FileTree :=
  let names := Path.names path
  if Path.isRooted path then tree
  else match names.getLast?, names.dropLast.foldlM enterOrMake (tree, []) with
    | some name, some (made, route) =>
      if name = Path.here || name = Path.up then made else made.put (route ++ [name]) node
    | _, _ => tree

/-- The files of the tree, each with its route and its content. -/
def files (tree : FileTree) : List (Route × List UInt8) :=
  tree.nodes.filterMap fun (route, node) =>
    match node with
    | .folder => none
    | .file content => some (route, content)

/-- A place that a path can lead to. -/
inductive Location
  /-- A node of the tree. -/
  | inside (route : Route)
  /-- A folder above the tree. -/
  | outside
  deriving DecidableEq, Repr

/-- Whether there is a folder at the location. -/
def isFolderAt (tree : FileTree) : Location → Bool
  | .inside route => tree.node? route = some .folder
  | .outside => true

/-- Goes from a location to one of the names in it. -/
def enter (tree : FileTree) (location : Location) (name : Text) : Except FileFault Location :=
  if !tree.isFolderAt location then .error .notFolder
  else if name = Path.here then .ok location
  else if Path.isTooLong name then .error .nameTooLong
  else match location with
    | .outside => if name = Path.up then .ok .outside else .error .notFound
    | .inside route =>
      if name = Path.up then .ok (if route.isEmpty then .outside else .inside route.dropLast)
      else if (tree.node? (route ++ [name])).isSome then .ok (.inside (route ++ [name]))
      else .error .notFound

/-- Where a path starts. -/
def start (path : Text) : Location :=
  if Path.isRooted path then .outside else .inside []

/-- Refuses a path that the system does not look at. -/
def checkPath (path : Text) : Except FileFault Unit :=
  if path.contains (Char.ofNat 0) then .error .nullInName
  else if path.isEmpty then .error .notFound
  else if Path.maxPath ≤ (Utf8.encode path).length then .error .nameTooLong
  else .ok ()

/-- Where a path leads. -/
def locate (tree : FileTree) (path : Text) : Except FileFault Location := do
  checkPath path
  let location ← (Path.names path).foldlM tree.enter (start path)
  if Path.wantsFolder path && !tree.isFolderAt location then .error .notFolder
  else .ok location

/-- The file at a location. -/
def fileAt? (tree : FileTree) : Location → Option (List UInt8)
  | .outside => none
  | .inside route =>
    match tree.node? route with
    | some (.file content) => some content
    | _ => none

/-- Whether a path leads to anything. -/
def hasNode (tree : FileTree) (path : Text) : Bool :=
  match tree.locate path with
  | .ok _ => true
  | .error _ => false

/-- Whether a path leads to a file. -/
def hasFile (tree : FileTree) (path : Text) : Bool :=
  match tree.locate path with
  | .ok location => (tree.fileAt? location).isSome
  | .error _ => false

/-- The content of the file that a path leads to. -/
def read (tree : FileTree) (path : Text) : Except FileFault (List UInt8) := do
  let location ← tree.locate path
  match tree.fileAt? location with
  | some content => .ok content
  | none => .error .isFolder

/-- The tree after writing a file.  The folder must be there; a file that is there already is
written anew.  A file outside the tree leaves the tree as it is. -/
def write (tree : FileTree) (path : Text) (content : List UInt8) : Except FileFault FileTree := do
  checkPath path
  let names := Path.names path
  let folder ← names.dropLast.foldlM tree.enter (start path)
  if !tree.isFolderAt folder then .error .notFolder
  else match names.getLast? with
    | none => .error .isFolder
    | some name =>
      if Path.wantsFolder path || name = Path.here || name = Path.up then .error .isFolder
      else if Path.isTooLong name then .error .nameTooLong
      else match folder with
        | .outside => .ok tree
        | .inside route =>
          if tree.node? (route ++ [name]) = some .folder then .error .isFolder
          else .ok (tree.put (route ++ [name]) (.file content))

end FileTree
end CodeGloss
