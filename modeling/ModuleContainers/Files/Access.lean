import ModuleContainers.Files.FileSystem
import ModuleContainers.Files.Tree

/-!
# Files in memory

A tree that is held in memory, seen from a current directory, is a world with files
(`FileTree.fileSystem`). Each operation walks its paths and is refused for the reasons
an operating system has. What is refused changes nothing, except that directories
which were made on the way to another one stay.
-/

namespace ModuleContainers.Files.FileTree

variable (current : List String)

def WalkError.fault : WalkError → Fault
  | .missing => .missing
  | .notDirectory => .notDirectory

/-! ## Files -/

/-- The file that the path leads to: its place and its contents. -/
def fileAt (tree : FileTree) (path : Path) : Except Fault (List String × ByteArray) :=
  match tree.walk current path with
  | .error error => .error error.fault
  | .ok (.vacant _ _) => .error .missing
  | .ok (.found place) =>
      match tree.get? place with
      | none => .error .missing
      | some (.directory _) => .error .isDirectory
      | some (.file contents) => .ok (place, contents)

def readText (tree : FileTree) (path : Path) : Except Fault String := do
  let (_, contents) ← tree.fileAt current path
  match String.fromUTF8? contents with
  | some text => return text
  | none => throw .notText

def fill (tree : FileTree) (path : Path) (contents : ByteArray) : Except Fault FileTree := do
  let (place, _) ← tree.fileAt current path
  return tree.put place (.file contents)

def removeFile (tree : FileTree) (path : Path) : Except Fault FileTree := do
  let (place, _) ← tree.fileAt current path
  return tree.remove place

/-- Takes a file from its place to the target; a directory is not replaced. -/
def moveFile (tree : FileTree) (source : List String) (contents : ByteArray) (target : Path) :
    Except Fault FileTree :=
  match tree.walk current target with
  | .error error => .error error.fault
  | .ok (.vacant parent name) => .ok ((tree.remove source).put (parent ++ [name]) (.file contents))
  | .ok (.found place) =>
      match tree.get? place with
      | none => .error .missing
      | some (.directory _) => .error .isDirectory
      | some (.file _) => .ok ((tree.remove source).put place (.file contents))

def rename (tree : FileTree) (source target : Path) : Except Fault FileTree := do
  let (place, contents) ← tree.fileAt current source
  tree.moveFile current place contents target

/-! ## Directories -/

def leads (tree : FileTree) (path : Path) : Bool :=
  match tree.walk current path with
  | .ok (.found _) => true
  | _ => false

/-- Makes a file without contents in the directory. -/
def createIn (naming : Naming) (tree : FileTree) (directory : Path) :
    Except Fault (Path × FileTree) :=
  match tree.walk current directory with
  | .error error => .error error.fault
  | .ok (.vacant _ _) => .error .missing
  | .ok (.found place) =>
      match tree.get? place with
      | none => .error .missing
      | some (.file _) => .error .notDirectory
      | some (.directory entries) =>
          let name := naming.fresh (entries.map Prod.fst)
          .ok (directory.join ⟨name⟩, tree.put (place ++ [name]) (.file .empty))

inductive Making where
  | made (tree : FileTree)
  | already
  /-- A directory on the way is missing. -/
  | gap
  | refused (cause : Fault)

def makeDirectory (tree : FileTree) (path : Path) : Making :=
  match tree.walk current path with
  | .ok (.vacant parent name) => .made (tree.put (parent ++ [name]) empty)
  | .ok (.found place) =>
      match tree.get? place with
      | some (.directory _) => .already
      | _ => .refused .taken
  | .error .missing => .gap
  | .error .notDirectory => .refused .notDirectory

/-- Makes a directory and those on the way to it, given so many steps back. What
was made stays, also when a later step fails. -/
def makeDirectories : Nat → FileTree → Path → FileTree × Except Fault Unit
  | 0, tree, _ => (tree, .error .missing)
  | steps + 1, tree, path =>
      if path.text = "" ∨ path.parent? = none then (tree, .ok ())
      else
        match tree.makeDirectory current path with
        | .made tree => (tree, .ok ())
        | .already => (tree, .ok ())
        | .refused cause => (tree, .error cause)
        | .gap =>
            match makeDirectories steps tree (path.parent?.getD ⟨""⟩) with
            | (tree, .error cause) => (tree, .error cause)
            | (tree, .ok ()) =>
                match tree.makeDirectory current path with
                | .made tree => (tree, .ok ())
                | .already => (tree, .ok ())
                | .refused cause => (tree, .error cause)
                | .gap => (tree, .error .missing)

/-! ## The world -/

/-- Changes the tree, unless the change is refused. -/
def change (step : FileTree → Except Fault FileTree) : StateM FileTree (Except Fault Unit) := do
  match step (← get) with
  | .error cause => return .error cause
  | .ok tree =>
      set tree
      return .ok ()

def fileSystem (current : List String := []) (naming : Naming := .longer) :
    FileSystem (StateM FileTree) where
  readText path := do return (← get).readText current path
  leads path := do return (← get).leads current path
  makeDirectories path := do
    let (tree, result) := (← get).makeDirectories current (path.text.length + 1) path
    set tree
    return result
  createIn directory := do
    match (← get).createIn current naming directory with
    | .error cause => return .error cause
    | .ok (made, tree) =>
        set tree
        return .ok made
  fill path text := change fun tree => tree.fill current path text.toUTF8
  rename source target := change fun tree => tree.rename current source target
  remove path := change fun tree => tree.removeFile current path

end ModuleContainers.Files.FileTree
