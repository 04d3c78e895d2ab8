import ModuleContainers.Text.Splitting

/-!
# Paths

A path is a text with slashes. Its components do not tell `a//b`, `a/./b` and
`a/b` apart, and two paths with the same components are the same path; a dot at
the very beginning is a component, though, so `./a` is not `a`. The text itself is kept:
it is what messages show and what is handed to the file system.
-/

namespace ModuleContainers.Files

structure Path where
  text : String
  deriving Repr, DecidableEq

inductive Component where
  | root
  | current
  | parent
  | name (name : String)
  deriving Repr, DecidableEq

namespace Component

/-- Components in order: the root, a dot, two dots, then names by their
characters. -/
def order : Component → Component → Ordering
  | .name a, .name b => compare a b
  | a, b => compare (rank a) (rank b)
where
  rank : Component → Nat
    | .root => 0
    | .current => 1
    | .parent => 2
    | .name _ => 3

end Component

namespace Path

def isAbsolute (path : Path) : Bool := path.text.toList.head? == some '/'

def segments (path : Path) : List String := Text.splitOn '/' path.text

def innerComponent (segment : String) : Option Component :=
  if segment = "" ∨ segment = "." then none
  else if segment = ".." then some .parent
  else some (.name segment)

/-- The component of the first segment. Before the first slash of an absolute
path there is nothing. -/
def firstComponent (absolute : Bool) (segment : String) : Option Component :=
  if absolute then some .root
  else if segment = "." then some .current
  else innerComponent segment

/-- A text that is one component as it stands. -/
structure IsName (segment : String) : Prop where
  slash : '/' ∉ segment.toList
  empty : segment ≠ ""
  current : segment ≠ "."
  parent : segment ≠ ".."

def components (path : Path) : List Component :=
  match path.segments with
  | [] => []
  | first :: rest =>
      (firstComponent path.isAbsolute first).toList ++ rest.filterMap innerComponent

def same (a b : Path) : Bool := a.components == b.components

def order (a b : Path) : Ordering := compareAll a.components b.components
where
  compareAll : List Component → List Component → Ordering
    | [], [] => .eq
    | [], _ :: _ => .lt
    | _ :: _, [] => .gt
    | a :: as, b :: bs => (Component.order a b).then (compareAll as bs)

/-- One path below another. An absolute path stands for itself. -/
def join (base below : Path) : Path :=
  if below.isAbsolute ∨ base.text = "" then below
  else if base.text.toList.getLast? = some '/' then ⟨base.text ++ below.text⟩
  else ⟨base.text ++ "/" ++ below.text⟩

/-- The segments without those at the end that are no component. -/
def dropSilent (keepsFirst : Bool) (segments : List String) : List String :=
  let first := if keepsFirst then segments.take 1 else []
  let rest := if keepsFirst then segments.drop 1 else segments
  let kept := (rest.reverse.dropWhile fun s => (innerComponent s).isNone).reverse
  if kept = [] then first.filter (· != "") else first ++ kept

/-- The path of what contains the last component: nothing for the root and for
the path without components. -/
def parent? (path : Path) : Option Path :=
  if path.isAbsolute then
    match dropSilent false (path.segments.drop 1) with
    | [] => none
    | kept => some ⟨"/" ++ String.intercalate "/" (dropSilent false kept.dropLast)⟩
  else
    match dropSilent true path.segments with
    | [] => none
    | kept => some ⟨String.intercalate "/" (dropSilent true kept.dropLast)⟩

/-- The directory that a new file at the path would stand in. -/
def directory (path : Path) : Path :=
  match path.parent? with
  | some parent => if parent.text = "" then ⟨"."⟩ else parent
  | none => ⟨"."⟩

def fileName? (path : Path) : Option String :=
  match path.components.getLast? with
  | some (.name name) => some name
  | _ => none

/-- The text after the last dot of the file name, unless that dot starts the
name. -/
def extension? (path : Path) : Option String := do
  let name ← path.fileName?
  let (stem, extension) ← Text.cutLast '.' name.toList
  if stem = [] then none else some (String.ofList extension)

end Path

end ModuleContainers.Files
