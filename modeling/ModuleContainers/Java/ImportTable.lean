import ModuleContainers.Java.ClassName

/-!
# Imports of a file

In one file a simple name can stand for one class only. The file's own type has
its name; after it, the first class that is referred to under a simple name
claims that name. A class that owns its name is written by it, and imported
where that is needed; any other class is written in full.
-/

namespace ModuleContainers.Java

/-- Which class owns which simple name in a file of a package. -/
structure ImportTable where
  package : String
  /-- Simple names and the classes that own them, the file's own type first. -/
  claims : List (String × ClassName)
  deriving Repr, DecidableEq

namespace ImportTable

def start (package own : String) : ImportTable :=
  ⟨package, [(own, .top package own)]⟩

/-- A reference to a class: its outermost class claims its simple name, unless
that has an owner. -/
def claim (table : ImportTable) (target : ClassName) : ImportTable :=
  match table.claims.lookup target.outermost with
  | some _ => table
  | none => { table with claims := table.claims ++ [(target.outermost, target.topLevel)] }

def build (package own : String) (types : List ClassName) : ImportTable :=
  types.foldl claim (start package own)

/-- How a class is written in the file. -/
def nameOf (table : ImportTable) (target : ClassName) : String :=
  match table.claims.lookup target.outermost with
  | some owner => if owner = target.topLevel then target.nestedPath else target.canonical
  | none => target.canonical

/-- A class that is only known in the file by an import. -/
def needsImport (table : ImportTable) (target : ClassName) : Bool :=
  !target.isJavaLang && target.package != "" && target.package != table.package

def imports (table : ImportTable) : List String :=
  ((table.claims.map Prod.snd).filter table.needsImport |>.map ClassName.canonical).mergeSort
    fun a b => !(b < a : Bool)

end ImportTable

end ModuleContainers.Java
