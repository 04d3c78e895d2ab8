import ModuleContainers.Files.Path

/-!
# File trees

A file tree is a file with its bytes or a directory with its entries. An entry
is found by the names on the way to it, and a change at one such place leaves
every other place as it is. Paths are walked as an operating system walks them:
every step but the last needs a directory, a dot stays where it is, two dots go
back, and a slash at the end asks for a directory.

The tree is the whole world. An absolute path starts at its root, every other one
at the current directory, and two dots at the root stay there.
-/

namespace ModuleContainers.Files

inductive FileTree where
  | file (contents : ByteArray)
  | directory (entries : List (String × FileTree))

namespace FileTree

def empty : FileTree := .directory []

/-! ## Places by name -/

def get? : FileTree → List String → Option FileTree
  | tree, [] => some tree
  | .file _, _ :: _ => none
  | .directory entries, name :: names =>
      match entries.lookup name with
      | some entry => entry.get? names
      | none => none

/-- The entries with a new value for a name; a new name comes last. -/
def setEntry (name : String) (value : FileTree) :
    List (String × FileTree) → List (String × FileTree)
  | [] => [(name, value)]
  | (n, v) :: rest =>
      if n = name then (name, value) :: rest else (n, v) :: setEntry name value rest

/-- The tree with something put at a place. The way there has to lead through
directories; otherwise nothing changes. -/
def put : FileTree → List String → FileTree → FileTree
  | _, [], value => value
  | .file contents, _ :: _, _ => .file contents
  | .directory entries, [name], value => .directory (setEntry name value entries)
  | .directory entries, name :: names, value =>
      match entries.lookup name with
      | some entry => .directory (setEntry name (entry.put names value) entries)
      | none => .directory entries

def remove : FileTree → List String → FileTree
  | tree, [] => tree
  | .file contents, _ :: _ => .file contents
  | .directory entries, [name] => .directory (entries.filter fun entry => entry.1 != name)
  | .directory entries, name :: names =>
      match entries.lookup name with
      | some entry => .directory (setEntry name (entry.remove names) entries)
      | none => .directory entries

/-! ## Walking a path -/

inductive WalkError where
  | missing
  | notDirectory
  deriving Repr, DecidableEq

/-- Where a walk ends: at something, or at a name that its directory does not
have. -/
inductive Place where
  | found (names : List String)
  | vacant (directory : List String) (name : String)
  deriving Repr, DecidableEq

/-- The segment only asks for a directory to be there. -/
def staysPut (segment : String) : Bool := segment == "" || segment == "."

def walkFrom (tree : FileTree) : List String → List String → Except WalkError Place
  | place, [] => .ok (.found place)
  | place, segment :: rest =>
      match tree.get? place with
      | none => .error .missing
      | some (.file _) => .error .notDirectory
      | some (.directory entries) =>
          if staysPut segment then walkFrom tree place rest
          else if segment = ".." then walkFrom tree place.dropLast rest
          else
            match entries.lookup segment with
            | some _ => walkFrom tree (place ++ [segment]) rest
            | none => if rest = [] then .ok (.vacant place segment) else .error .missing

/-- The place that the walk of a path starts from. -/
def start (current : List String) (path : Path) : List String :=
  if path.isAbsolute then [] else current

def walk (current : List String) (tree : FileTree) (path : Path) : Except WalkError Place :=
  if path.text = "" then .error .missing
  else walkFrom tree (start current path) path.segments

/-! ## Everything in a tree -/

mutual

/-- Every file below a place and every directory without entries, with the names
on the way to it. A directory has no contents to show. -/
def leavesFrom : List String → FileTree → List (List String × Option ByteArray)
  | place, .file contents => [(place, some contents)]
  | place, .directory [] => if place = [] then [] else [(place, none)]
  | place, .directory (entry :: rest) => leavesOfEntries place (entry :: rest)

def leavesOfEntries : List String → List (String × FileTree) →
    List (List String × Option ByteArray)
  | _, [] => []
  | place, (name, entry) :: rest => leavesFrom (place ++ [name]) entry ++ leavesOfEntries place rest

end

def leaves (tree : FileTree) : List (List String × Option ByteArray) := leavesFrom [] tree

end FileTree

end ModuleContainers.Files
