import ModuleContainers.Proofs.Java.ClassName
import ModuleContainers.Proofs.Java.ImportTable

/-!
# What a class name means in a file

A compiler reads a class name in a file by fixed rules (`Scope.resolve`). A name
that starts with a package is complete. Any other name starts with a simple name,
and that is, in this order, the file's own type, a class that the file imports, a
type of the file's package, and a class of the language's package.

The import table goes by the order of references instead: whoever comes first
owns the simple name. The two agree but for one mixture (`IsHidden`): a class of
the language's package that comes first is written by its simple name without an
import, and a type of the file's package that has the same name takes it away.
Every other class that a file refers to is found by the name it is written with
(`resolve_nameOf_iff`).
-/

namespace ModuleContainers.Java

open ClassName (startsUppercase languagePackage)

/-- What names in a file can stand for. -/
structure Scope where
  package : String
  /-- The type that the file declares. -/
  own : String
  /-- The imports, each the full name of one class. -/
  imports : List String
  /-- The types that the package has, whether the file refers to them or not. -/
  siblings : List String
  deriving Repr, DecidableEq

namespace Scope

/-- The class that an import brings in, if it brings in that simple name. -/
def importedAs (simple target : String) : Option ClassName :=
  (Text.cutLast '.' target.toList).bind fun parts =>
    if String.ofList parts.2 = simple then some (.top (String.ofList parts.1) simple) else none

/-- The class that a simple name stands for. -/
def owner (scope : Scope) (simple : String) : ClassName :=
  if simple = scope.own then .top scope.package simple
  else match scope.imports.findSome? (importedAs simple) with
    | some imported => imported
    | none =>
        if simple ∈ scope.siblings then .top scope.package simple
        else .top languagePackage simple

/-- The class that a name as written stands for. -/
def resolve (scope : Scope) (written : String) : Option ClassName :=
  match ClassName.parse written with
  | .error _ => none
  | .ok c =>
      if c.package = "" then some { scope.owner c.outermost with nested := c.nested } else some c

/-- The scope of a file that refers to some classes and carries the imports of
its table. -/
def ofFile (package own : String) (types : List ClassName) (siblings : List String) : Scope :=
  ⟨package, own, (ImportTable.build package own types).imports, siblings⟩

/-! ## The two ways to write a class -/

/-- The full name stands for the class in every scope. -/
theorem resolve_canonical {scope : Scope} {c : ClassName} (h : c.WellFormed)
    (hpackage : c.package ≠ "") (hupper : startsUppercase c.outermost.toList = true) :
    scope.resolve c.canonical = some c := by
  simp [resolve, ClassName.parse_canonical h hupper, hpackage]

/-- The short name stands for the class where its outermost class is the one
that the simple name stands for. -/
theorem resolve_nestedPath {scope : Scope} {c : ClassName} (h : c.WellFormed)
    (hupper : startsUppercase c.outermost.toList = true) {top : ClassName}
    (howner : scope.owner c.outermost = top) :
    scope.resolve c.nestedPath = some c ↔ top.topLevel = c.topLevel := by
  obtain ⟨package, outermost, nested⟩ := c
  obtain ⟨topPackage, topOutermost, topNested⟩ := top
  simp [resolve, ClassName.parse_nestedPath h hupper, howner, ClassName.topLevel, ClassName.top]

/-! ## Imports -/

theorem importedAs_canonical {c : ClassName} (h : c.WellFormed) (hpackage : c.package ≠ "")
    (simple : String) :
    importedAs simple c.topLevel.canonical = if c.outermost = simple then some c.topLevel else none
    := by
  have hcut : Text.cutLast '.' c.topLevel.canonical.toList
      = some (c.package.toList, c.outermost.toList) := by
    rw [ClassName.canonical_topLevel hpackage]
    simpa using Text.cutLast_append c.package.toList h.dot_not_mem_outermost
  rw [importedAs, hcut]
  by_cases hsimple : c.outermost = simple
  · simp [hsimple, ClassName.topLevel]
  · simp [hsimple]

section File

variable {package own : String} {types : List ClassName} {siblings : List String}

/-- The classes come from names with a package and a class in it. -/
def AllQualified (types : List ClassName) : Prop :=
  ∀ c ∈ types, (∃ name, ClassName.parse name = .ok c) ∧ c.package ≠ ""
    ∧ startsUppercase c.outermost.toList = true

theorem AllQualified.firstNamed {simple : String} {c : ClassName} (h : AllQualified types)
    (hc : ImportTable.firstNamed simple types = some c) : c.WellFormed ∧ c.package ≠ "" := by
  obtain ⟨⟨name, hname⟩, hpackage, -⟩ := h c (List.mem_of_find?_eq_some hc)
  exact ⟨ClassName.wellFormed_of_parse hname, hpackage⟩

/-- The imports of a file bring in a simple name for its owner, and not for
anyone else. -/
theorem importedAs_imports (h : AllQualified types) {c : ClassName}
    (hfirst : ImportTable.firstNamed c.outermost types = some c) (hown : c.outermost ≠ own) :
    (ofFile package own types siblings).imports.findSome? (importedAs c.outermost)
      = if c.package = languagePackage ∨ c.package = package then none else some c.topLevel := by
  have hall : ∀ target ∈ (ofFile package own types siblings).imports, ∀ found,
      importedAs c.outermost target = some found →
        found = c.topLevel ∧ c.package ≠ languagePackage ∧ c.package ≠ package := by
    intro target htarget found hfound
    obtain ⟨d, hd, -, hlang, -, hother, rfl⟩ := ImportTable.mem_imports_build.mp htarget
    obtain ⟨hwf, hpackage⟩ := h.firstNamed hd
    rw [importedAs_canonical hwf hpackage] at hfound
    split at hfound
    · next hsimple =>
        rw [hsimple, hfirst] at hd
        obtain rfl := Option.some.inj hd
        exact ⟨(Option.some.inj hfound).symm, hlang, hother⟩
    · cases hfound
  cases hsome : (ofFile package own types siblings).imports.findSome? (importedAs c.outermost) with
  | some found =>
      obtain ⟨target, htarget, hfound⟩ := List.exists_of_findSome?_eq_some hsome
      obtain ⟨rfl, hlang, hother⟩ := hall target htarget found hfound
      simp [hlang, hother]
  | none =>
      obtain ⟨hwf, hpackage⟩ := h.firstNamed hfirst
      by_cases hknown : c.package = languagePackage ∨ c.package = package
      · simp [hknown]
      · have hmem : c.topLevel.canonical ∈ (ofFile package own types siblings).imports :=
          ImportTable.mem_imports_build.mpr ⟨c, hfirst, hown, fun heq => hknown (.inl heq),
            hpackage, fun heq => hknown (.inr heq), rfl⟩
        have hbad := List.findSome?_eq_none_iff.mp hsome _ hmem
        simp [importedAs_canonical hwf hpackage] at hbad

/-! ## Classes that cannot be found -/

/-- A class of the language's package owns its simple name in the file, and the
file's package has a type of that name. -/
def IsHidden (package own : String) (types : List ClassName) (siblings : List String)
    (c : ClassName) : Prop :=
  c.package = languagePackage ∧ package ≠ languagePackage ∧ c.outermost ≠ own
    ∧ c.outermost ∈ siblings
    ∧ ∃ first, ImportTable.firstNamed c.outermost types = some first
        ∧ first.package = languagePackage

/-- Who owns a simple name in the file, by the compiler's rules, when a class
owns it by the file's table. -/
theorem owner_ofFile (h : AllQualified types)
    (hsiblings : ∀ c ∈ types, c.package = package → c.outermost ∈ siblings) {c : ClassName}
    (hfirst : ImportTable.firstNamed c.outermost types = some c) (hown : c.outermost ≠ own) :
    (ofFile package own types siblings).owner c.outermost
      = if c.package = languagePackage ∧ c.outermost ∈ siblings then .top package c.outermost
        else c.topLevel := by
  have hsibling := hsiblings c (List.mem_of_find?_eq_some hfirst)
  have hother : c.outermost ≠ (ofFile package own types siblings).own := hown
  rw [owner, importedAs_imports h hfirst hown, if_neg hother]
  by_cases hlang : c.package = languagePackage
  · rw [if_pos (Or.inl hlang), ClassName.topLevel, hlang]
    by_cases hmem : c.outermost ∈ siblings <;> simp [hmem, ofFile]
  · by_cases hpackage : c.package = package
    · simp [hpackage, hsibling hpackage, ofFile, ClassName.topLevel]
    · simp [hlang, hpackage]

/-- A class that a file refers to is found by the name it is written with, unless
it is hidden. -/
theorem resolve_nameOf_iff (h : AllQualified types)
    (hsiblings : ∀ c ∈ types, c.package = package → c.outermost ∈ siblings) {c : ClassName}
    (hc : c ∈ types) :
    (ofFile package own types siblings).resolve ((ImportTable.build package own types).nameOf c)
      = some c ↔ ¬ IsHidden package own types siblings c := by
  obtain ⟨⟨name, hname⟩, hpackage, hupper⟩ := h c hc
  have hwf := ClassName.wellFormed_of_parse hname
  obtain ⟨first, hfirst⟩ := ImportTable.firstNamed_isSome hc
  have hsimple := ImportTable.outermost_of_firstNamed hfirst
  have hfull : (ofFile package own types siblings).resolve c.canonical = some c :=
    resolve_canonical hwf hpackage hupper
  rw [ImportTable.nameOf_build]
  by_cases hown : c.outermost = own
  · -- The name of the own type is taken, whoever comes first.
    have hvisible : ¬ IsHidden package own types siblings c := fun hidden => hidden.2.2.1 hown
    rw [if_pos hown]
    split
    · next howner =>
        have htop : (ofFile package own types siblings).owner c.outermost = .top package own := by
          rw [hown]
          exact if_pos rfl
        rw [resolve_nestedPath hwf hupper htop, ← Option.some.inj howner]
        exact iff_of_true rfl hvisible
    · exact iff_of_true hfull hvisible
  · rw [if_neg hown, hfirst, Option.map_some]
    have howner := owner_ofFile h hsiblings (hsimple.symm ▸ hfirst) (hsimple.symm ▸ hown)
    rw [hsimple] at howner
    split
    · next heq =>
        have htop : first.topLevel = c.topLevel := Option.some.inj heq
        have hsame : first.package = c.package := (ClassName.mk.inj htop).1
        rw [resolve_nestedPath hwf hupper howner, hsame]
        by_cases htaken : c.package = languagePackage ∧ c.outermost ∈ siblings
        · have hsimply : (ClassName.top package c.outermost).topLevel = c.topLevel
              ↔ package = c.package := by
            simp [ClassName.topLevel, ClassName.top]
          rw [if_pos htaken, hsimply, htaken.1]
          constructor
          · exact fun hlang hidden => hidden.2.1 hlang
          · intro hvisible
            by_contra hlang
            exact hvisible
              ⟨htaken.1, hlang, hown, htaken.2, first, hfirst, hsame.trans htaken.1⟩
        · rw [if_neg htaken]
          exact iff_of_true htop fun hidden => htaken ⟨hidden.1, hidden.2.2.2.1⟩
    · next hother =>
        refine iff_of_true hfull ?_
        rintro ⟨hlang, -, -, -, first', hfirst', hlang'⟩
        obtain rfl := Option.some.inj (hfirst.symm.trans hfirst')
        simp [ClassName.topLevel, hsimple, hlang, hlang'] at hother

end File

/-- The mixture that is not served: `Object` is written for the language's class,
and means the one of the package. -/
theorem languageClass_taken_by_package :
    AllQualified [.top "java.lang" "Object", .top "com.example" "Object"]
      ∧ (ofFile "com.example" "Module"
            [.top "java.lang" "Object", .top "com.example" "Object"] ["Object"]).resolve
          ((ImportTable.build "com.example" "Module"
            [.top "java.lang" "Object", .top "com.example" "Object"]).nameOf
              (.top "java.lang" "Object"))
        = some (.top "com.example" "Object")
      ∧ ClassName.top "com.example" "Object" ≠ .top "java.lang" "Object" := by
  refine ⟨?_, by decide +kernel, by decide⟩
  simp only [AllQualified, List.forall_mem_cons]
  exact ⟨⟨⟨"java.lang.Object", by decide +kernel⟩, by decide, by decide +kernel⟩,
    ⟨⟨"com.example.Object", by decide +kernel⟩, by decide, by decide +kernel⟩, by simp⟩

/-- In the other order both classes are found. -/
theorem resolve_nameOf_package_first :
    (ofFile "com.example" "Module"
        [.top "com.example" "Object", .top "java.lang" "Object"] ["Object"]).resolve
      ((ImportTable.build "com.example" "Module"
        [.top "com.example" "Object", .top "java.lang" "Object"]).nameOf
          (.top "java.lang" "Object"))
      = some (.top "java.lang" "Object") := by
  refine (resolve_nameOf_iff ?_ ?_ (by simp)).mpr ?_
  · simp only [AllQualified, List.forall_mem_cons]
    exact ⟨⟨⟨"com.example.Object", by decide +kernel⟩, by decide, by decide +kernel⟩,
      ⟨⟨"java.lang.Object", by decide +kernel⟩, by decide, by decide +kernel⟩, by simp⟩
  · simp [ClassName.top]
  · rintro ⟨-, -, -, -, first, hfirst, hlang⟩
    obtain rfl : ClassName.top "com.example" "Object" = first := by
      simpa [ImportTable.firstNamed, ClassName.top] using hfirst
    revert hlang; decide

end Scope

end ModuleContainers.Java
