import ModuleContainers.Failure
import ModuleContainers.Java.Fragment
import ModuleContainers.Metadata.Module

/-!
# Dependencies and attributes in generated code

A dependency is written in two ways. Where a value is passed, it is an access:
an expression that fetches the service from an access point. Where the runtime
is told what to wait for, it is a descriptor. A task has no value to fetch, so
both ways it is its name as a string literal.

The names of parameters and variables of the generated methods are fixed here as
well, for the fragments that use them.
-/

namespace ModuleContainers.Container

open ModuleContainers.Java (ClassName Fragment)
open ModuleContainers.Java.Fragment (text type classLiteral literal)
open ModuleContainers.Metadata (Attribute Constant Dependency LookupKind)

/-! ## Names in generated methods -/

/-- The variable of the module's services. -/
def centralName : String := "central"

def registryName : String := "registry"

def tasksName : String := "tasks"

/-! ## Classes of the language -/

def objectClass : ClassName := .top ClassName.languagePackage "Object"

def stringClass : ClassName := .top ClassName.languagePackage "String"

def classClass : ClassName := .top ClassName.languagePackage "Class"

def overrideAnnotation : ClassName := .top ClassName.languagePackage "Override"

/-- The classes of the language that generated code may refer to. -/
def languageClasses : List ClassName :=
  [objectClass, stringClass, classClass, overrideAnnotation]

/-! ## Accesses -/

/-- Where services are fetched from. -/
inductive AccessPoint where
  | central
  | taskServices
  deriving Repr, DecidableEq, Inhabited

def AccessPoint.expression : AccessPoint → String
  | .central => centralName
  | .taskServices => "task.getServices()"

/-- The method that looks a service up. -/
def getter : LookupKind → String
  | .value => "getService"
  | .provider => "getProvider"
  | .wildcardProvider => "getProviderWildcard"

def access (point : AccessPoint) : Dependency → Except Failure Fragment
  | .task name => .ok (literal name)
  | .service needed => do
      let target ← classNamed needed.className
      return text (point.expression ++ "." ++ getter needed.kind ++ "(") ++ classLiteral target
        ++ text ", " ++ literal needed.serviceName ++ text ")"

/-! ## Descriptors -/

def truth (b : Bool) : String := if b then "true" else "false"

/-- A dependency as something to wait for. -/
def descriptor (runtime : Runtime ClassName) : Dependency → Except Failure Fragment
  | .task name => .ok (literal name)
  | .service needed => do
      let target ← classNamed needed.className
      return text "new " ++ type runtime.serviceDependency ++ text "(" ++ classLiteral target
        ++ text ", " ++ literal needed.serviceName ++ text (", " ++ truth needed.optional ++ ")")

/-! ## Attributes -/

def attributePair (runtime : Runtime ClassName) (pair : Attribute) : Fragment :=
  type runtime.tuples ++ text ".to(" ++ literal pair.name ++ text ", " ++ literal pair.value
    ++ text ")"

/-- Attributes as an array of pairs; no attributes are the shared empty array. -/
def attributeArray (runtime : Runtime ClassName) (attributes : List Attribute) : Fragment :=
  if attributes = [] then type runtime.builtins ++ text ".emptyAttributesArray()"
  else
    text "new " ++ type runtime.pair ++ text "[]\x7b"
      ++ Fragment.arguments (attributes.map (attributePair runtime)) ++ text "\x7d"

def constantOf {α : Type} [Constant α] (target : ClassName) (value : α) : Fragment :=
  type target ++ text ("." ++ Constant.name value)

end ModuleContainers.Container
