/-!
# The constants of module metadata

Three settings are chosen from a few constants: how a dependency is looked up,
where a task runs, and when a module is created. A constant has one spelling,
which metadata and generated code share.
-/

namespace ModuleContainers.Metadata

/-- A type of named constants. -/
class Constant (α : Type) where
  /-- Every constant, in the order in which they are declared. -/
  all : List α
  name : α → String

namespace Constant

def ofName? {α : Type} [Constant α] (spelling : String) : Option α :=
  (all (α := α)).find? fun constant => name constant == spelling

end Constant

/-! ## The three settings -/

/-- How a service dependency is looked up. -/
inductive LookupKind where
  | value
  | provider
  /-- A provider that matches every service name of the type. -/
  | wildcardProvider
  deriving Repr, DecidableEq, Inhabited

instance : Constant LookupKind where
  all := [.value, .provider, .wildcardProvider]
  name
    | .value => "VALUE"
    | .provider => "PROVIDER"
    | .wildcardProvider => "WILDCARD_PROVIDER"

inductive ThreadMode where
  | mainThread
  | background
  | anyThread
  deriving Repr, DecidableEq

instance : Inhabited ThreadMode := ⟨.anyThread⟩

instance : Constant ThreadMode where
  all := [.mainThread, .background, .anyThread]
  name
    | .mainThread => "MAIN"
    | .background => "BACKGROUND"
    | .anyThread => "ANY"

inductive BootstrapMode where
  | eager
  /-- When something of the module is asked for. -/
  | lazy
  deriving Repr, DecidableEq

instance : Inhabited BootstrapMode := ⟨.lazy⟩

instance : Constant BootstrapMode where
  all := [.eager, .lazy]
  name
    | .eager => "EAGER"
    | .lazy => "LAZY"

end ModuleContainers.Metadata
