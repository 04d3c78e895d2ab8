import ModuleContainers.Proofs.Java.ClassName
import ModuleContainers.Proofs.Java.ImportTable

/-!
# The first claim wins

An import table is built by one pass, and every reference adds at most one claim. What
the table says in the end can be told from the list of references alone: who owns a
simple name (`ownerOf`), which classes are imported, and how each class is written.

The imports are in order and bring in different simple names (`imports_pairwise`),
none of them in vain (`exists_of_mem_imports`). A class that is referred to keeps its
spelling when more references follow (`owns_append`), so the spelling of a file can be
decided from the front. `build_eq_firstClaim` has all of it.
-/

namespace ModuleContainers.Java.ImportTable

variable {package own : String} {types : List ClassName}

/-! ## Owners -/

/-- The outermost class around a class owns its simple name. -/
def Owns (package own : String) (types : List ClassName) (c : ClassName) : Prop :=
  ownerOf package own types c.outermost = some c.topLevel

instance (c : ClassName) : Decidable (Owns package own types c) :=
  inferInstanceAs (Decidable (_ = _))

theorem nameOf_eq (c : ClassName) :
    (build package own types).nameOf c
      = if Owns package own types c then c.nestedPath else c.canonical :=
  nameOf_build c

theorem outermost_of_ownerOf {simple : String} {owner : ClassName}
    (h : ownerOf package own types simple = some owner) : owner.outermost = simple := by
  unfold ownerOf at h
  split at h
  · next hown =>
      obtain rfl := Option.some.inj h
      exact hown.symm
  · obtain ⟨c, hfirst, rfl⟩ := Option.map_eq_some_iff.mp h
    have hsimple : c.outermost = simple := outermost_of_firstNamed hfirst
    exact hsimple

/-- An owner from another package was referred to. -/
theorem exists_of_ownerOf {simple : String} {owner : ClassName}
    (h : ownerOf package own types simple = some owner) (hother : owner.package ≠ package) :
    ∃ c ∈ types, c.topLevel = owner := by
  unfold ownerOf at h
  split at h
  · obtain rfl := Option.some.inj h
    exact absurd rfl hother
  · obtain ⟨c, hfirst, rfl⟩ := Option.map_eq_some_iff.mp h
    exact ⟨c, List.mem_of_find?_eq_some hfirst, rfl⟩

theorem firstNamed_append {c : ClassName} (hc : c ∈ types) (more : List ClassName) :
    firstNamed c.outermost (types ++ more) = firstNamed c.outermost types := by
  obtain ⟨first, hfirst⟩ := firstNamed_isSome hc
  have hfound : types.find? (fun d => d.outermost == c.outermost) = some first := hfirst
  rw [firstNamed, List.find?_append, hfound, Option.some_or, hfirst]

/-- Later references take nothing from a class that is referred to already. -/
theorem owns_append {c : ClassName} (hc : c ∈ types) (more : List ClassName) :
    Owns package own (types ++ more) c ↔ Owns package own types c := by
  rw [Owns, Owns, ownerOf, ownerOf, firstNamed_append hc]

/-! ## Imports -/

/-- The simple name that an import brings in. -/
def lastSegment (target : String) : Option String := (Text.splitOn '.' target).getLast?

theorem lastSegment_canonical {c : ClassName} (hpackage : c.package ≠ "")
    (hdot : '.' ∉ c.outermost.toList) : lastSegment c.topLevel.canonical = some c.outermost := by
  have hlast : Text.splitOn '.' c.outermost = [c.outermost] := by
    rw [Text.splitOn, List.splitOn_eq_singleton hdot, List.map_singleton, String.ofList_toList]
  rw [lastSegment, ClassName.canonical_topLevel hpackage, splitOn_append_dot, hlast,
    List.getLast?_concat]

/-- The classes that a file imports, in the order of their claims. -/
def imported (table : ImportTable) : List ClassName :=
  (table.claims.map Prod.snd).filter table.needsImport

theorem imports_perm (table : ImportTable) :
    table.imports.Perm (table.imported.map ClassName.canonical) :=
  List.mergeSort_perm _ _

theorem not_lt_iff (s t : String) : (!(t < s : Bool)) = true ↔ s ≤ t := by
  rw [Bool.not_eq_true', decide_eq_false_iff_not]
  exact String.not_lt

theorem imports_sorted (table : ImportTable) : table.imports.Pairwise (· ≤ ·) := by
  have htotal : ∀ s t : String, (!(t < s : Bool) || !(s < t : Bool)) = true := fun s t => by
    rw [Bool.or_eq_true, not_lt_iff, not_lt_iff]
    exact String.le_total s t
  have hsorted : table.imports.Pairwise fun s t => !(t < s : Bool) := by
    refine List.pairwise_mergeSort (fun r s t hrs hst => ?_) htotal _
    rw [not_lt_iff] at hrs hst ⊢
    exact String.le_trans hrs hst
  exact hsorted.imp (not_lt_iff _ _).mp

theorem exists_of_mem_imported {owner : ClassName}
    (h : owner ∈ (build package own types).imported) :
    owner.package ≠ "" ∧ ∃ c ∈ types, c.topLevel = owner := by
  obtain ⟨hmem, hneeds⟩ := List.mem_filter.mp h
  obtain ⟨⟨simple, found⟩, hclaim, rfl⟩ := List.mem_map.mp hmem
  simp only [needsImport, build_package, Bool.and_eq_true, bne_iff_ne] at hneeds
  exact ⟨hneeds.1.2, exists_of_ownerOf (mem_claims_build.mp hclaim) hneeds.2⟩

/-- Owners are known by their simple names. -/
theorem imported_nodup : ((build package own types).imported.map ClassName.outermost).Nodup := by
  have hkeys : ((build package own types).claims.map Prod.snd).map ClassName.outermost
      = (build package own types).claims.map Prod.fst := by
    rw [List.map_map]
    exact List.map_congr_left fun entry hmem => outermost_of_ownerOf (mem_claims_build.mp hmem)
  have howners : (((build package own types).claims.map Prod.snd).map
      ClassName.outermost).Nodup := hkeys ▸ keys_nodup_build
  exact howners.sublist (List.filter_sublist.map _)

/-- Imports ascend, and no simple name is brought in twice. -/
theorem imports_pairwise (h : ∀ c ∈ types, '.' ∉ c.outermost.toList) :
    (build package own types).imports.Pairwise fun s t =>
      s < t ∧ lastSegment s ≠ lastSegment t := by
  have hsegments : ((build package own types).imported.map ClassName.canonical).map lastSegment
      = ((build package own types).imported.map ClassName.outermost).map some := by
    rw [List.map_map, List.map_map]
    refine List.map_congr_left fun owner howner => ?_
    obtain ⟨hpackage, c, hc, rfl⟩ := exists_of_mem_imported howner
    exact lastSegment_canonical hpackage (h c hc)
  have hnodup : ((build package own types).imports.map lastSegment).Nodup := by
    rw [((imports_perm _).map _).nodup_iff, hsegments]
    exact imported_nodup.map fun _ _ => Option.some.inj
  refine ((imports_sorted _).and (List.pairwise_map.mp hnodup)).imp fun ⟨hle, hne⟩ => ⟨?_, hne⟩
  exact String.not_le.mp fun hge => hne (congrArg lastSegment (String.le_antisymm hle hge))

/-- Every import is there for a class of the list that is written without its
package. -/
theorem exists_of_mem_imports {target : String} (h : target ∈ (build package own types).imports) :
    ∃ c ∈ types, c.topLevel.canonical = target ∧ Owns package own types c ∧ c.package ≠ "" := by
  obtain ⟨c, hfirst, hown, -, hpackage, -, rfl⟩ := mem_imports_build.mp h
  refine ⟨c, List.mem_of_find?_eq_some hfirst, rfl, ?_, hpackage⟩
  rw [Owns, ownerOf, if_neg hown, hfirst, Option.map_some]

theorem nestedPath_ne_canonical {c : ClassName} (h : c.package ≠ "") :
    c.nestedPath ≠ c.canonical := by
  intro heq
  have hlength := congrArg String.length heq
  rw [ClassName.canonical, if_neg h, String.length_append, String.length_append] at hlength
  have hdot : ".".length = 1 := rfl
  omega

/-! ## The whole table -/

/-- What an import table is, for every list of references. Its imports are the top-level
classes of the first classes with their simple names, but for the own name and for
packages that are known without an import. They ascend and do not share a simple
name, as no simple name has a dot, and each is there for a class that is written by its
nested path. A class is written so when it is enclosed in the owner of its simple name,
and in full otherwise, whatever follows. -/
theorem build_eq_firstClaim (package own : String) (types : List ClassName) :
    (∀ target, target ∈ (build package own types).imports ↔
        ∃ c, firstNamed c.outermost types = some c ∧ c.outermost ≠ own
          ∧ c.package ≠ ClassName.languagePackage ∧ c.package ≠ "" ∧ c.package ≠ package
          ∧ c.topLevel.canonical = target)
      ∧ ((∀ c ∈ types, '.' ∉ c.outermost.toList) →
          (build package own types).imports.Pairwise fun s t =>
            s < t ∧ lastSegment s ≠ lastSegment t)
      ∧ (∀ c ∈ types, (build package own types).nameOf c
          = if ownerOf package own types c.outermost = some c.topLevel then c.nestedPath
            else c.canonical)
      ∧ (∀ target ∈ (build package own types).imports, ∃ c ∈ types,
          c.topLevel.canonical = target ∧ (build package own types).nameOf c = c.nestedPath
            ∧ c.nestedPath ≠ c.canonical)
      ∧ ∀ more, ∀ c ∈ types, (build package own (types ++ more)).nameOf c
          = (build package own types).nameOf c := by
  refine ⟨fun _ => mem_imports_build, imports_pairwise, fun c _ => nameOf_eq c, ?_, ?_⟩
  · intro target htarget
    obtain ⟨c, hc, hcanonical, howns, hpackage⟩ := exists_of_mem_imports htarget
    exact ⟨c, hc, hcanonical, by rw [nameOf_eq, if_pos howns], nestedPath_ne_canonical hpackage⟩
  · intro more c hc
    simp only [nameOf_eq, owns_append hc more]

/-- Two classes named `Object` and two named `Module`, a class nested in the own type, and
one without a package. -/
def mixedReferences : List ClassName :=
  [⟨"com.other", "Object", ["Key"]⟩, ⟨"java.lang", "Object", []⟩,
    ⟨"com.example", "Module", ["Part"]⟩, ⟨"com.other", "Module", []⟩, ⟨"", "Widget", []⟩,
    ⟨"a", "Widget", []⟩, ⟨"b", "Gate", []⟩]

theorem firstClaim_of_mixedReferences :
    (∀ c ∈ mixedReferences, '.' ∉ c.outermost.toList)
      ∧ ((build "com.example" "Module" mixedReferences).imports.Pairwise fun s t =>
          s < t ∧ lastSegment s ≠ lastSegment t)
      ∧ "com.other.Object" ∈ (build "com.example" "Module" mixedReferences).imports
      ∧ mixedReferences.map (build "com.example" "Module" mixedReferences).nameOf
        = ["Object.Key", "java.lang.Object", "Module.Part", "com.other.Module", "Widget",
          "a.Widget", "Gate"] := by
  have hsimple : ∀ c ∈ mixedReferences, '.' ∉ c.outermost.toList := by decide
  obtain ⟨himports, hpairwise, hnames, -, -⟩ :=
    build_eq_firstClaim "com.example" "Module" mixedReferences
  refine ⟨hsimple, hpairwise hsimple, (himports _).mpr ?_, ?_⟩
  · exact ⟨⟨"com.other", "Object", ["Key"]⟩, by decide +kernel, by decide, by decide, by decide,
      by decide, by decide +kernel⟩
  · rw [List.map_congr_left hnames]
    decide +kernel

end ModuleContainers.Java.ImportTable
