import ModuleContainers.Proofs.Configuration
import ModuleContainers.Proofs.Container.Class
import ModuleContainers.Proofs.Container.Completeness
import ModuleContainers.Proofs.Java.FirstClaim

/-!
# The class of a module

The name of the entrance class is read twice, by different rules. The file goes by the
last dot: what is behind it is the type that the file declares. A reference to a class
goes by the look of the segments and by dollar signs, and may find a nested class.

The two agree on plain names (`nested_eq_nil_iff`): no dollar sign behind the last dot, and
no segment before it that looks like a class. Then the class that the name denotes is
the one that the file declares, and in the file it needs nothing but its simple name
(`entrance_denotes_own_type`).
-/

namespace ModuleContainers.Container

open ModuleContainers.Java (ClassName CompilationUnit ImportTable)
open ModuleContainers.Java.ClassName (cutPackage ofCharacters startsUppercase)
open ModuleContainers.Metadata (Module)

/-! ## A name read by both rules -/

section Reading

variable {text before after : List Char} {c : ClassName}

theorem names_eq_of_plain (hcut : Text.cutLast '.' text = some (before, after))
    (hread : ofCharacters text = .ok c) (hdollar : '$' ∉ after)
    (hlower : ∀ part ∈ before.splitOn '.', startsUppercase part = false) :
    c.names = [String.ofList after] := by
  obtain ⟨-, hnames, -⟩ := ClassName.ofCharacters_eq_ok.mp hread
  have hlast : cutPackage [after] = ([], [after]) := ClassName.cutPackage_cons_eq_iff.mpr (.inr rfl)
  rw [Text.splitOn_of_cutLast hcut, ClassName.cutPackage_append_left hlower (List.cons_ne_nil _ _),
    hlast] at hnames
  simpa [List.splitOn_eq_singleton hdollar] using hnames

theorem length_le_length_flatMap_splitOn (separator : Char) (pieces : List (List Char)) :
    pieces.length ≤ (pieces.flatMap (List.splitOn separator)).length := by
  induction pieces with
  | nil => simp
  | cons piece rest ih =>
      have hpiece := List.length_pos_of_ne_nil (List.splitOn_ne_nil separator piece)
      rw [List.flatMap_cons, List.length_append, List.length_cons]
      omega

/-- A class that was read as a top-level class was read from the text behind the last dot. -/
theorem cutPackage_of_nested_eq_nil (hcut : Text.cutLast '.' text = some (before, after))
    (hread : ofCharacters text = .ok c) (hnested : c.nested = []) :
    cutPackage (text.splitOn '.') = (before.splitOn '.', [after]) := by
  obtain ⟨-, hnames, -⟩ := ClassName.ofCharacters_eq_ok.mp hread
  have hwhole := ClassName.cutPackage_append (text.splitOn '.')
  rw [Text.splitOn_of_cutLast hcut] at hnames hwhole ⊢
  generalize cutPackage (before.splitOn '.' ++ [after]) = cut at hnames hwhole ⊢
  obtain ⟨packages, classes⟩ := cut
  simp only at hnames hwhole
  have hcount : classes.length ≤ 1 := by
    have hlength := congrArg List.length hnames
    have hle := length_le_length_flatMap_splitOn '$' classes
    rw [List.length_map, ClassName.names, hnested, List.length_singleton] at hlength
    omega
  cases classes with
  | nil => simp [ClassName.names] at hnames
  | cons only rest =>
      obtain rfl : rest = [] := List.length_eq_zero_iff.mp (by simpa using hcount)
      obtain ⟨rfl, hlast⟩ := List.append_inj' hwhole rfl
      rw [hlast]

/-- The two rules agree on plain names. -/
theorem nested_eq_nil_iff (hcut : Text.cutLast '.' text = some (before, after))
    (hread : ofCharacters text = .ok c) :
    c.nested = [] ↔
      '$' ∉ after ∧ ∀ part ∈ before.splitOn '.', startsUppercase part = false := by
  constructor
  · intro hnested
    have hfound := cutPackage_of_nested_eq_nil hcut hread hnested
    obtain ⟨-, hnames, -⟩ := ClassName.ofCharacters_eq_ok.mp hread
    rw [hfound, ClassName.names, hnested, List.flatMap_singleton, eq_comm,
      List.map_eq_singleton_iff] at hnames
    obtain ⟨piece, hpiece, -⟩ := hnames
    have hwhole : ['$'].intercalate (after.splitOn '$') = after := List.intercalate_splitOn '$'
    rw [hpiece, List.intercalate_singleton] at hwhole
    constructor
    · rw [← hwhole]
      exact Text.not_mem_of_mem_splitOn (hpiece ▸ List.mem_singleton_self piece)
    · intro part hpart
      exact ClassName.not_startsUppercase_of_mem_package (by rw [hfound]; exact hpart)
  · rintro ⟨hdollar, hlower⟩
    exact (List.cons.inj (names_eq_of_plain hcut hread hdollar hlower)).2

/-- A top-level class is the one that the last dot tells. -/
theorem eq_top_of_nested_eq_nil (hcut : Text.cutLast '.' text = some (before, after))
    (hread : ofCharacters text = .ok c) (hnested : c.nested = []) :
    c = .top (String.ofList before) (String.ofList after) := by
  obtain ⟨hdollar, hlower⟩ := (nested_eq_nil_iff hcut hread).mp hnested
  obtain ⟨-, -, hpackage, -⟩ := ClassName.ofCharacters_eq_ok.mp hread
  rw [cutPackage_of_nested_eq_nil hcut hread hnested] at hpackage
  refine ClassName.eq_of_names (names_eq_of_plain hcut hread hdollar hlower) ?_
  rw [hpackage, ← String.toList_inj, String.toList_intercalate, List.map_map]
  simp [Function.comp_def, ClassName.top]

theorem topLevel_eq_iff : c.topLevel = c ↔ c.nested = [] := by
  obtain ⟨package, outermost, nested⟩ := c
  simp [ClassName.topLevel, ClassName.top, eq_comm]

end Reading

/-! ## The own type in its file -/

section OwnType

variable {package own : String} {types : List ClassName}

theorem nameOf_own : (ImportTable.build package own types).nameOf (.top package own) = own := by
  have howns : ImportTable.Owns package own types (.top package own) := if_pos rfl
  rw [ImportTable.nameOf_eq, if_pos howns]
  rfl

theorem own_not_mem_imports (htypes : ∀ c ∈ types, c.WellFormed) (hpackage : package ≠ "")
    (hown : '.' ∉ own.toList) :
    (ClassName.top package own).canonical ∉ (ImportTable.build package own types).imports := by
  intro hmem
  obtain ⟨c, hfirst, hother, -, hqualified, -, hcanonical⟩ := ImportTable.mem_imports_build.mp hmem
  have hc := htypes c (List.mem_of_find?_eq_some hfirst)
  have hlast := ImportTable.lastSegment_canonical hqualified hc.dot_not_mem_outermost
  have hlast' : ImportTable.lastSegment (ClassName.top package own).canonical = some own :=
    @ImportTable.lastSegment_canonical (.top package own) hpackage hown
  rw [hcanonical, hlast'] at hlast
  exact hother (Option.some.inj hlast).symm

end OwnType

/-! ## The entrance class -/

/-- The name of the entrance class denotes a top-level class exactly when it is plain:
there is no dollar sign behind the last dot, and no segment before it looks like a
class. Then that is the class of the generated file, which is written in the file by
its simple name and is not imported. -/
theorem entrance_denotes_own_type {names : Runtime String} {runtime : Runtime ClassName}
    (hruntime : names.resolve = .ok runtime) (banner : String) {module : Module}
    (hvalid : module.validate = .ok ()) :
    ∃ file c, unit runtime banner module = .ok file
      ∧ ClassName.parse module.entranceClass = .ok c
      ∧ module.entranceParts = some (file.package, file.typeName)
      ∧ (c.topLevel = c ↔ '$' ∉ file.typeName.toList
          ∧ ∀ part ∈ Text.splitOn '.' file.package, startsUppercase part.toList = false)
      ∧ (c.topLevel = c → c.package = file.package ∧ c.simpleName = file.typeName
          ∧ file.importTable.nameOf c = file.typeName
          ∧ c.canonical ∉ file.importTable.imports) := by
  have hnamed := Module.wellNamed_of_validate hvalid
  obtain ⟨file, hfile⟩ := unit_succeeds runtime hnamed banner
  obtain ⟨-, -, hentrance, hbody⟩ := reads_unit (Runtime.wellFormed_of_resolve hruntime) hfile
  have hparts := entranceParts_of_entrance hentrance
  obtain ⟨package, name, hparts', hpackage, -, c, hclass⟩ := hnamed.entrance
  obtain ⟨rfl, rfl⟩ := Prod.mk.inj (Option.some.inj (hparts'.symm.trans hparts))
  have hparse := parse_of_mapError hclass
  have hread := ClassName.parse_eq_ok.mp hparse
  obtain ⟨⟨before, after⟩, hcut, heq⟩ := Option.map_eq_some_iff.mp hparts
  obtain ⟨hbefore, hafter⟩ := Prod.mk.inj heq
  refine ⟨file, c, hfile, hparse, hparts, ?_, fun htop => ?_⟩
  · rw [topLevel_eq_iff, nested_eq_nil_iff hcut hread, ← hbefore, ← hafter]
    simp [Text.splitOn]
  · have hown := eq_top_of_nested_eq_nil hcut hread (topLevel_eq_iff.mp htop)
    rw [hbefore, hafter] at hown
    have htypes : ∀ d ∈ file.body.types, d.WellFormed := by
      rw [hbody.types]
      exact hbody.wellFormed
    have hdot : '.' ∉ file.typeName.toList := by
      rw [← hafter, String.toList_ofList]
      exact (Text.cutLast_eq_some hcut).2
    rw [hown]
    exact ⟨rfl, rfl, nameOf_own, own_not_mem_imports htypes hpackage hdot⟩

/-- A module whose entrance class is its activator too. -/
def ownActivator (name : String) : Module where
  name := "greeter"
  entranceClass := name
  activatorClass := some name

theorem greeter_denotes_own_type :
    ∃ runtime file, Runtime.standard.resolve = .ok runtime
      ∧ (ownActivator "com.example.Greeter").validate = .ok ()
      ∧ unit runtime "" (ownActivator "com.example.Greeter") = .ok file
      ∧ file.package = "com.example" ∧ file.typeName = "Greeter"
      ∧ file.importTable.nameOf (.top "com.example" "Greeter") = "Greeter"
      ∧ "com.example.Greeter" ∉ file.importTable.imports := by
  obtain ⟨runtime, hruntime⟩ := Runtime.standard_resolves
  have hvalid : (ownActivator "com.example.Greeter").validate = .ok () := by decide +kernel
  obtain ⟨file, c, hfile, hparse, -, -, hown⟩ := entrance_denotes_own_type hruntime "" hvalid
  have hclass : ClassName.parse "com.example.Greeter" = .ok (.top "com.example" "Greeter") := by
    decide +kernel
  obtain rfl : c = .top "com.example" "Greeter" := Except.ok.inj (hparse.symm.trans hclass)
  obtain ⟨hpackage, hname, hspelled, himports⟩ := hown rfl
  rw [← hname] at hspelled
  exact ⟨runtime, file, hruntime, hvalid, hfile, hpackage.symm, hname.symm, hspelled, himports⟩

/-- The file declares a class `Inner` of the package `com.example.Outer`. By the same name
its activator is nested in a class `Outer`, and is written so. -/
theorem inner_denotes_nested_class :
    ∃ runtime file c, Runtime.standard.resolve = .ok runtime
      ∧ (ownActivator "com.example.Outer.Inner").validate = .ok ()
      ∧ unit runtime "" (ownActivator "com.example.Outer.Inner") = .ok file
      ∧ ClassName.parse "com.example.Outer.Inner" = .ok c
      ∧ c.topLevel ≠ c
      ∧ c.package = "com.example" ∧ file.package = "com.example.Outer"
      ∧ c.simpleName = file.typeName ∧ file.importTable.nameOf c ≠ file.typeName := by
  have hvalid : (ownActivator "com.example.Outer.Inner").validate = .ok () := by decide +kernel
  obtain ⟨runtime, hruntime⟩ := Runtime.standard_resolves
  obtain ⟨file, hfile⟩ := unit_succeeds runtime (Module.wellNamed_of_validate hvalid) ""
  obtain ⟨-, -, hentrance, -⟩ := reads_unit (Runtime.wellFormed_of_resolve hruntime) hfile
  have hparts : (ownActivator "com.example.Outer.Inner").entranceParts
      = some ("com.example.Outer", "Inner") := by decide +kernel
  obtain ⟨hpackage, hname⟩ := Prod.mk.inj (Option.some.inj
    ((entranceParts_of_entrance hentrance).symm.trans hparts))
  refine ⟨runtime, file, ⟨"com.example", "Outer", ["Inner"]⟩, hruntime, hvalid, hfile,
    by decide +kernel, by decide, rfl, hpackage, hname.symm, ?_⟩
  -- Whoever owns `Outer`, no class writes its nested classes without it.
  rw [hname, CompilationUnit.importTable, ImportTable.nameOf_eq]
  split <;> decide +kernel

end ModuleContainers.Container
