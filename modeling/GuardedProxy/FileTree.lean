import GuardedProxy.FileStore
import GuardedProxy.Path
import GuardedProxy.Text.Trim

/-!
# A tree of files

A tree holds files and directories below a top directory. A path is followed part by part from the
current directory, or from the top when it begins with a slash. Every part but the last must lead
to a directory, and a slash at the end asks for one. A walk remembers the directories that it went
through, so that it can go up again and so that a change at its end gives the changed tree.
-/

namespace GuardedProxy

/-- The names on the way from the top of a tree. -/
abbrev Place := List String

inductive FileNode
  | file (content : ByteArray)
  | directory (entries : List (String × FileNode))

namespace FileNode

abbrev Entries := List (String × FileNode)

def put (entries : Entries) (name : String) (node : FileNode) : Entries :=
  entries.filter (·.1 ≠ name) ++ [(name, node)]

def isDirectory : FileNode → Bool
  | file _ => false
  | directory _ => true

mutual

/-- The files at and below a node, with their places below it. -/
def files : FileNode → List (Place × ByteArray)
  | file content => [([], content)]
  | directory entries => filesIn entries

def filesIn : List (String × FileNode) → List (Place × ByteArray)
  | [] => []
  | (name, node) :: rest =>
    node.files.map (fun (place, content) ↦ (name :: place, content)) ++ filesIn rest

end

end FileNode

/-- Where a walk stands: at a node, below the directories that it went through, the nearest first,
each with the name that was followed there. -/
structure Position where
  node : FileNode
  above : List (String × FileNode.Entries)

namespace Position

/-- The directory around the node. The top has none and stands for itself. -/
def up (position : Position) : Position :=
  match position.above with
  | [] => position
  | (_, entries) :: above => ⟨.directory entries, above⟩

/-- The whole tree with another node in this position. -/
def replace (position : Position) (node : FileNode) : FileNode :=
  position.above.foldl (fun node (name, entries) ↦ .directory (FileNode.put entries name node)) node

end Position

structure FileTree where
  top : FileNode
  current : Place

namespace FileTree

/-- A tree with directories on the way to the current one and nothing else. -/
def empty (current : Place) : FileTree :=
  ⟨current.foldr (fun name node ↦ .directory [(name, node)]) (.directory []), current⟩

/-! ## Following paths -/

def nameLimit : Nat := 255

def pathLimit : Nat := 4095

def isUsableName (name : String) : Bool := Text.byteLength name.toList ≤ nameLimit

def isUsablePath (path : String) : Bool :=
  Text.byteLength path.toList ≤ pathLimit && !path.toList.contains '\x00'

/-- The parts of a path, single dots included. -/
def steps (path : String) : List String :=
  ((Path.splitSlashes path.toList).map String.ofList).filter (· ≠ "")

/-- Follows one part from a directory. -/
def follow (position : Position) (step : String) : Except FileError Position :=
  match position.node with
  | .file _ => .error .notDirectory
  | .directory entries =>
    if step = "." then .ok position
    else if step = ".." then .ok position.up
    else if !isUsableName step then .error .unusableName
    else
      match entries.lookup step with
      | some node => .ok ⟨node, (step, entries) :: position.above⟩
      | none => .error .missing

/-- Follows parts from the top or from the current directory. -/
def walk (tree : FileTree) (fromTop : Bool) (steps : List String) : Except FileError Position :=
  ((if fromTop then [] else tree.current) ++ steps).foldlM follow ⟨tree.top, []⟩

def endsInSlash (path : String) : Bool := path.toList.getLast? = some '/'

/-- The position that a path leads to. -/
def resolve (tree : FileTree) (path : String) : Except FileError Position := do
  if path.isEmpty then throw .missing
  if !isUsablePath path then throw .unusableName
  let position ← tree.walk (Path.isAbsolute path) (steps path)
  if endsInSlash path && !position.node.isDirectory then throw .notDirectory
  return position

/-- Changes the entries of the directory that the parts but the last lead to. -/
def update (tree : FileTree) (fromTop : Bool) (steps : List String)
    (change : FileNode.Entries → String → Except FileError FileNode.Entries) :
    Except FileError FileTree := do
  match steps.getLast? with
  | none => throw .alreadyExists
  | some name =>
    let position ← tree.walk fromTop steps.dropLast
    match position.node with
    | .file _ => throw .notDirectory
    | .directory entries =>
      let entries ← change entries name
      return { tree with top := position.replace (.directory entries) }

/-! ## Reading and writing -/

def pathExists (tree : FileTree) (path : String) : Bool := (tree.resolve path).isOk

def readText (tree : FileTree) (path : String) : Except FileError String := do
  match (← tree.resolve path).node with
  | .file content =>
    match String.fromUTF8? content with
    | some text => return text
    | none => throw .notText
  | .directory _ => throw .isDirectory

/-- Makes or replaces the file of a name among entries. -/
def putFile (content : ByteArray) (entries : FileNode.Entries) (name : String) :
    Except FileError FileNode.Entries := do
  if name = "." ∨ name = ".." then throw .isDirectory
  if !isUsableName name then throw .unusableName
  if (entries.lookup name).any FileNode.isDirectory then throw .isDirectory
  return FileNode.put entries name (.file content)

def writeBytes (tree : FileTree) (path : String) (content : ByteArray) :
    Except FileError FileTree := do
  if !isUsablePath path then throw .unusableName
  if path.isEmpty then throw .missing
  let slash := endsInSlash path
  tree.update (Path.isAbsolute path) (steps path) fun entries name ↦
    if slash then .error .isDirectory else putFile content entries name

/-- Makes an empty directory of a new name among entries. -/
def putDirectory (entries : FileNode.Entries) (name : String) :
    Except FileError FileNode.Entries := do
  if name = "." ∨ name = ".." then throw .alreadyExists
  if !isUsableName name then throw .unusableName
  if (entries.lookup name).isSome then throw .alreadyExists
  return FileNode.put entries name (.directory [])

/-- Makes one directory in a directory that is there. -/
def createDirectory (tree : FileTree) (fromTop : Bool) (steps : List String) :
    Except FileError FileTree :=
  tree.update fromTop steps putDirectory

/-- An error in making a directory is none when the directory is there. -/
def unlessDirectory (tree : FileTree) (fromTop : Bool) (steps : List String) (error : FileError) :
    Except FileError Unit :=
  match tree.walk fromTop steps with
  | .ok position => if position.node.isDirectory then .ok () else .error error
  | .error _ => .error error

/-- Makes one directory, which may be there before. -/
def ensureDirectory (tree : FileTree) (fromTop : Bool) (steps : List String) :
    Except FileError Unit × FileTree :=
  match tree.createDirectory fromTop steps with
  | .ok tree => (.ok (), tree)
  | .error error => (tree.unlessDirectory fromTop steps error, tree)

/-- Makes a directory. When one on the way to it is missing, `makeAbove` comes first. The tree keeps
what was made before a failure. -/
def ensureBelow (makeAbove : FileTree → Except FileError Unit × FileTree) (fromTop : Bool)
    (steps : List String) (tree : FileTree) : Except FileError Unit × FileTree :=
  match tree.createDirectory fromTop steps with
  | .ok tree => (.ok (), tree)
  | .error .missing =>
    match makeAbove tree with
    | (.ok (), tree) => tree.ensureDirectory fromTop steps
    | (.error error, tree) => (.error error, tree)
  | .error error => (tree.unlessDirectory fromTop steps error, tree)

/-- Makes a directory and those above it, the parts of its path being given from the last on. -/
def ensureUpwards (fromTop : Bool) : List String → FileTree → Except FileError Unit × FileTree
  | [], tree => (.ok (), tree)
  | name :: above, tree =>
    ensureBelow (ensureUpwards fromTop above) fromTop (name :: above).reverse tree

/-- Makes a directory and those above it. Neither an empty path nor the top needs making. -/
def createDirectories (tree : FileTree) (path : String) : Except FileError Unit × FileTree :=
  let fromTop := Path.isAbsolute path
  if (steps path).isEmpty then (.ok (), tree)
  else if !isUsablePath path then (.error .unusableName, tree)
  else ensureBelow (ensureUpwards fromTop (Path.parts path).dropLast.reverse) fromTop (steps path) tree

instance : FileStore (StateM FileTree) where
  pathExists path := do return (← get).pathExists path
  readText path := do return (← get).readText path
  createDirectories path := modifyGet (·.createDirectories path)
  writeText path text := modifyGet fun tree ↦
    match tree.writeBytes path text.toUTF8 with
    | .ok tree => (.ok (), tree)
    | .error error => (.error error, tree)

end FileTree

end GuardedProxy
