import ModuleContainers.Java.Identifier
import ModuleContainers.Text.Blank
import ModuleContainers.Text.Uppercase

/-!
# Class names

A class is known by its package, its outermost class and the classes nested in
that one, from the outside in. A name is read either with dots or with dollar
signs between nested classes. Where the package ends is told by convention: the
first part with an uppercase initial is the outermost class, and if there is no
such part, the last part is the class.
-/

namespace ModuleContainers.Java

/-- A class, possibly nested in others. -/
structure ClassName where
  /-- The package, with dots; empty for the default package. -/
  package : String
  outermost : String
  /-- The classes nested in the outermost one, from the outside in. -/
  nested : List String
  deriving Repr, DecidableEq

namespace ClassName

def names (c : ClassName) : List String := c.outermost :: c.nested

def top (package name : String) : ClassName := ⟨package, name, []⟩

/-- The name of the class itself. -/
def simpleName (c : ClassName) : String := c.nested.getLastD c.outermost

/-- The class that encloses all others, which is the one an import names. -/
def topLevel (c : ClassName) : ClassName := top c.package c.outermost

/-- The name as written where the outermost class is known: `Outer.Inner`. -/
def nestedPath (c : ClassName) : String := String.intercalate "." c.names

/-- The name as written anywhere: `com.example.Outer.Inner`. -/
def canonical (c : ClassName) : String :=
  if c.package = "" then c.nestedPath else c.package ++ "." ++ c.nestedPath

/-- Classes of this package are known everywhere without an import. -/
def languagePackage : String := "java.lang"

def isJavaLang (c : ClassName) : Bool := c.package == languagePackage

/-- Classes are ordered by package, then by their names from the outside in. -/
def order (a b : ClassName) : Ordering :=
  (compare a.package b.package).then (compareNames a.names b.names)
where
  compareNames : List String → List String → Ordering
    | [], [] => .eq
    | [], _ :: _ => .lt
    | _ :: _, [] => .gt
    | a :: as, b :: bs => (compare a b).then (compareNames as bs)

/-! ## Reading a name -/

inductive Fault where
  | empty
  | emptySegment
  | notIdentifier (part : String)
  | notPackageSegment (part : String)
  deriving Repr, DecidableEq

def Fault.reason : Fault → String
  | .empty => "class name is empty"
  | .emptySegment => "empty segment"
  | .notIdentifier part => "'" ++ part ++ "' is not a Java identifier"
  | .notPackageSegment part => "'" ++ part ++ "' is not a valid package segment"

structure Invalid where
  name : String
  fault : Fault
  deriving Repr, DecidableEq

/-- The part looks like a class rather than like a part of a package. -/
def startsUppercase : List Char → Bool
  | [] => false
  | c :: _ => Text.isUppercase c

def cutPackage (segments : List (List Char)) : List (List Char) × List (List Char) :=
  match segments.span fun segment => !startsUppercase segment with
  | (lower, []) => (lower.dropLast, lower.getLast?.toList)
  | parts => parts

/-- Reads a class name that has no blanks around it. The classes are looked at
before the package. -/
def ofCharacters (text : List Char) : Except Fault ClassName :=
  if text = [] then .error .empty
  else
    let segments := text.splitOn '.'
    if [] ∈ segments then .error .emptySegment
    else
      let (packageParts, typeParts) := cutPackage segments
      let package := packageParts.map String.ofList
      let names := (typeParts.flatMap (List.splitOn '$')).map String.ofList
      match names.find? (fun part => !isIdentifier part) with
      | some part => .error (.notIdentifier part)
      | none =>
          match package.find? (fun part => !isIdentifier part) with
          | some part => .error (.notPackageSegment part)
          | none =>
              match names with
              | [] => .error .empty
              | outermost :: nested => .ok ⟨String.intercalate "." package, outermost, nested⟩

/-- Reads a class name; blanks around it do not count. -/
def parse (name : String) : Except Invalid ClassName :=
  (ofCharacters (Text.dropEnds name.toList)).mapError fun fault => ⟨name, fault⟩

end ClassName

/-! ## Types of variables -/

/-- The type of a local variable: a primitive type or a class. -/
inductive TypeName where
  | primitive (keyword : String)
  | reference (target : ClassName)
  deriving Repr, DecidableEq

namespace TypeName

/-- The primitive types. A variable cannot be `void`. -/
def primitives : List String :=
  ["boolean", "byte", "char", "short", "int", "long", "float", "double"]

def parse (name : String) : Except ClassName.Invalid TypeName :=
  let trimmed := Text.trim name
  if trimmed ∈ primitives then .ok (.primitive trimmed)
  else (ClassName.parse trimmed).map .reference

end TypeName

end ModuleContainers.Java
