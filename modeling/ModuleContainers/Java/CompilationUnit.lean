import ModuleContainers.Java.Fragment
import ModuleContainers.Java.ImportTable

/-!
# Java files

A file holds one type: a package clause, the imports that the body needs, and
the body.
-/

namespace ModuleContainers.Java

structure CompilationUnit where
  package : String
  typeName : String
  body : Fragment
  deriving Repr, DecidableEq

namespace CompilationUnit

def importTable (file : CompilationUnit) : ImportTable :=
  .build file.package file.typeName file.body.types

/-- The package clause with an empty line after it; nothing for the default
package. -/
def packageClause (package : String) : String :=
  if package = "" then "" else "package " ++ package ++ ";\n\n"

/-- The import statements with an empty line after them; nothing where there are
none. -/
def importClauses (imports : List String) : String :=
  if imports = [] then ""
  else String.join (imports.map fun target => "import " ++ target ++ ";\n") ++ "\n"

def closeLine (text : String) : String :=
  if text.toList.getLast? = some '\n' then text else text ++ "\n"

def render (file : CompilationUnit) (unit : String) : String :=
  let table := file.importTable
  closeLine (packageClause file.package ++ importClauses table.imports
    ++ file.body.render unit table.nameOf)

end CompilationUnit

end ModuleContainers.Java
