import ModuleContainers.Java.ImportTable
import ModuleContainers.Proofs.Entries

/-!
# Who owns a simple name

An import table is built by one pass over the classes that a file refers to, and
after the pass it can be read off without it: the file's own type owns its name,
and every other simple name is owned by the first class of the list that carries
it (`lookup_build`). A file imports the owners that it would not know otherwise
(`mem_imports_build`).
-/

namespace ModuleContainers.Java.ImportTable

variable {package own : String} {types : List ClassName}

/-- The first class of a list whose outermost class has the simple name. -/
def firstNamed (simple : String) (types : List ClassName) : Option ClassName :=
  types.find? fun c => c.outermost == simple

theorem outermost_of_firstNamed {simple : String} {c : ClassName}
    (h : firstNamed simple types = some c) : c.outermost = simple := by
  simpa using List.find?_some h

theorem firstNamed_isSome {c : ClassName} (hc : c ∈ types) :
    ∃ first, firstNamed c.outermost types = some first := by
  cases h : firstNamed c.outermost types with
  | some first => exact ⟨first, rfl⟩
  | none => exact absurd (beq_self_eq_true _) (List.find?_eq_none.mp h c hc)

/-- The class that owns a simple name: the file's own type owns its name, and any
other name is owned by the first class of the list that carries it. -/
def ownerOf (package own : String) (types : List ClassName) (simple : String) : Option ClassName :=
  if simple = own then some (.top package own)
  else (firstNamed simple types).map ClassName.topLevel

/-! ## Claims -/

theorem lookup_pair {β : Type} (key simple : String) (owner : β) :
    [(key, owner)].lookup simple = if key = simple then some owner else none := by
  rw [Entries.lookup_cons, List.lookup_nil]
  simp only [eq_comm]

@[simp] theorem claim_package (table : ImportTable) (c : ClassName) :
    (table.claim c).package = table.package := by
  unfold claim; split <;> rfl

theorem lookup_claim (table : ImportTable) (c : ClassName) (simple : String) :
    (table.claim c).claims.lookup simple
      = (table.claims.lookup simple).or
          (if c.outermost = simple then some c.topLevel else none) := by
  unfold claim
  split
  · next owner howner =>
      by_cases heq : c.outermost = simple
      · rw [heq] at howner; simp [howner]
      · simp [heq]
  · next hfree =>
      rw [List.lookup_append, lookup_pair]

/-- A claim never changes who owns a name that has an owner. -/
theorem lookup_foldl_claim (table : ImportTable) (simple : String) :
    ∀ types : List ClassName, (types.foldl claim table).claims.lookup simple
      = (table.claims.lookup simple).or ((firstNamed simple types).map ClassName.topLevel)
  | [] => by simp [firstNamed]
  | c :: rest => by
      rw [List.foldl_cons, lookup_foldl_claim (table.claim c) simple rest, lookup_claim,
        Option.or_assoc]
      by_cases h : c.outermost = simple <;> simp [firstNamed, h]

theorem build_package : (build package own types).package = package := by
  suffices h : ∀ (types : List ClassName) (table : ImportTable),
      (types.foldl claim table).package = table.package from h types _
  intro types
  induction types with
  | nil => exact fun _ => rfl
  | cons c rest ih => exact fun table => by rw [List.foldl_cons, ih, claim_package]

theorem lookup_build (simple : String) :
    (build package own types).claims.lookup simple = ownerOf package own types simple := by
  rw [build, lookup_foldl_claim, start, lookup_pair, ownerOf]
  by_cases h : own = simple <;> simp [h, eq_comm]

/-- How a class is written depends on who comes first under its simple name. -/
theorem nameOf_build (c : ClassName) :
    (build package own types).nameOf c
      = if (if c.outermost = own then some (.top package own)
            else (firstNamed c.outermost types).map ClassName.topLevel) = some c.topLevel
        then c.nestedPath else c.canonical := by
  rw [nameOf, lookup_build, ownerOf]
  split
  · next owner howner => simp [howner]
  · next hnone => simp [hnone]

/-! ## Imports -/

theorem keys_nodup_claim {table : ImportTable} (h : (table.claims.map Prod.fst).Nodup)
    (c : ClassName) : ((table.claim c).claims.map Prod.fst).Nodup := by
  unfold claim
  split
  · exact h
  · next hfree =>
      rw [List.map_append, List.nodup_append]
      refine ⟨h, by simp, ?_⟩
      rintro key hkey simple hsimple rfl
      obtain ⟨pair, hmem, rfl⟩ := List.mem_map.mp hkey
      simp only [List.map_cons, List.map_nil, List.mem_singleton] at hsimple
      have := List.lookup_eq_none_iff.mp hfree pair hmem
      simp [hsimple] at this

theorem keys_nodup_build : ((build package own types).claims.map Prod.fst).Nodup := by
  suffices h : ∀ (types : List ClassName) (table : ImportTable),
      (table.claims.map Prod.fst).Nodup → ((types.foldl claim table).claims.map Prod.fst).Nodup from
    h types _ (by simp [start])
  intro types
  induction types with
  | nil => exact fun _ h => h
  | cons c rest ih => exact fun table h => ih _ (keys_nodup_claim h c)

/-- The table holds the owners and nothing else. -/
theorem mem_claims_build {simple : String} {owner : ClassName} :
    (simple, owner) ∈ (build package own types).claims ↔
      ownerOf package own types simple = some owner := by
  rw [← lookup_build]
  constructor
  · exact fun hmem => Entries.lookup_of_mem keys_nodup_build hmem
  · intro hlookup
    obtain ⟨before, after, heq, -⟩ := List.lookup_eq_some_iff.mp hlookup
    simp [heq]

/-- The file imports the owners of other packages. Its own type is none of them. -/
theorem mem_imports_build {target : String} :
    target ∈ (build package own types).imports ↔
      ∃ c, firstNamed c.outermost types = some c ∧ c.outermost ≠ own
        ∧ c.package ≠ ClassName.languagePackage ∧ c.package ≠ "" ∧ c.package ≠ package
        ∧ c.topLevel.canonical = target := by
  simp only [imports, List.mem_mergeSort, List.mem_map, List.mem_filter, needsImport, build_package,
    ClassName.isJavaLang, Bool.and_eq_true, Bool.not_eq_true', beq_eq_false_iff_ne, bne_iff_ne]
  constructor
  · rintro ⟨owner, ⟨⟨⟨simple, owner⟩, hmem, rfl⟩, ⟨hlang, hempty⟩, hother⟩, rfl⟩
    have howner := mem_claims_build.mp hmem
    unfold ownerOf at howner
    split at howner
    · obtain rfl := Option.some.inj howner
      exact absurd rfl hother
    · next hown =>
        obtain ⟨c, hfirst, rfl⟩ := Option.map_eq_some_iff.mp howner
        obtain rfl := outermost_of_firstNamed hfirst
        exact ⟨c, hfirst, hown, hlang, hempty, hother, rfl⟩
  · rintro ⟨c, hfirst, hown, hlang, hempty, hother, rfl⟩
    have howner : ownerOf package own types c.outermost = some c.topLevel := by
      rw [ownerOf, if_neg hown, hfirst, Option.map_some]
    exact ⟨c.topLevel, ⟨⟨(c.outermost, c.topLevel), mem_claims_build.mpr howner, rfl⟩,
      ⟨hlang, hempty⟩, hother⟩, rfl⟩

end ModuleContainers.Java.ImportTable
