import ModuleContainers.Proofs.Java.ClassName

/-!
# Canonical names

A name of a nested class may have dots or dollar signs between the classes, and its
canonical name has dots only. Dollar signs in the package stay as they are, so what
becomes of a name depends on where its packages end (`Cut`).

A canonical name is a name again, but it does not say where the dollar signs were.
Reading it finds the same class exactly when the outermost class is told from the
package without them: by its uppercase initial, or because it is the last segment
(`WellFormed.parse_canonical_iff`). `canonical_of_parse` puts together what is known
of a class that was read.
-/

namespace ModuleContainers.Java.ClassName

/-! ## Packages and classes -/

/-- A name is packages, each with a dot behind it, and then classes. The first
segment that looks like a class begins the classes, and the last one does where none
looks like one. -/
structure Cut (text : List Char) (packages : List (List Char)) (classes : List Char) : Prop where
  whole : text = packages.flatMap (· ++ ['.']) ++ classes
  packages : ∀ part ∈ packages, '.' ∉ part ∧ startsUppercase part = false
  classes : startsUppercase classes = true ∨ '.' ∉ classes

/-- The classes with dots between them. -/
def dotted (classes : List Char) : List Char := classes.map fun c => if c == '$' then '.' else c

theorem startsUppercase_append_dot (before after : List Char) :
    startsUppercase (before ++ '.' :: after) = startsUppercase before := by
  cases before with
  | nil => exact (by decide +kernel : Text.isUppercase '.' = false)
  | cons c rest => rfl

/-- Every text can be cut. The induction is on the text behind the first dot. -/
theorem exists_cut (text : List Char) : ∃ packages classes, Cut text packages classes := by
  by_cases hend : startsUppercase text = true ∨ '.' ∉ text
  · exact ⟨[], text, rfl, by simp, hend⟩
  · obtain ⟨hlower, hdot⟩ := not_or.mp hend
    obtain ⟨before, after, htext, hbefore⟩ := List.eq_append_cons_of_mem (not_not.mp hdot)
    have hshorter : after.length < text.length := by
      rw [htext, List.length_append, List.length_cons]
      omega
    obtain ⟨packages, classes, hcut⟩ := exists_cut after
    rw [htext, startsUppercase_append_dot, Bool.not_eq_true] at hlower
    refine ⟨before :: packages, classes, by simp [htext, hcut.whole], ?_, hcut.classes⟩
    exact List.forall_mem_cons.mpr ⟨⟨hbefore, hlower⟩, hcut.packages⟩
termination_by text.length

theorem splitOn_packages {packages : List (List Char)} (h : ∀ part ∈ packages, '.' ∉ part)
    (rest : List Char) :
    (packages.flatMap (· ++ ['.']) ++ rest).splitOn '.' = packages ++ rest.splitOn '.' := by
  induction packages with
  | nil => rfl
  | cons part more ih =>
      obtain ⟨hpart, hmore⟩ := List.forall_mem_cons.mp h
      have hassoc : (part :: more).flatMap (· ++ ['.']) ++ rest
          = part ++ '.' :: (more.flatMap (· ++ ['.']) ++ rest) := by simp
      rw [hassoc, List.splitOn_append_cons_self, List.splitOn_eq_singleton hpart, ih hmore,
        List.singleton_append, List.cons_append]

section Cut

variable {text : List Char} {packages : List (List Char)} {classes : List Char}
  (h : Cut text packages classes)

include h

/-- There is one cut only, and reading a name makes it. -/
theorem Cut.cutPackage_eq : cutPackage (text.splitOn '.') = (packages, classes.splitOn '.') := by
  have hclasses : cutPackage (classes.splitOn '.') = ([], classes.splitOn '.') := by
    by_cases hdot : '.' ∈ classes
    · obtain ⟨first, more, rfl, hfirst⟩ := List.eq_append_cons_of_mem hdot
      have hupper := h.classes.resolve_right (not_not.mpr hdot)
      rw [startsUppercase_append_dot] at hupper
      rw [List.splitOn_append_cons_self, List.splitOn_eq_singleton hfirst, List.singleton_append]
      exact cutPackage_cons_eq_iff.mpr (.inl hupper)
    · rw [List.splitOn_eq_singleton hdot]
      exact cutPackage_cons_eq_iff.mpr (.inr rfl)
  rw [h.whole, splitOn_packages fun part hp => (h.packages part hp).1,
    cutPackage_append_left (fun part hp => (h.packages part hp).2)
      (List.splitOn_ne_nil '.' classes),
    hclasses, List.append_nil]

theorem Cut.package_eq {c : ClassName} (hread : ofCharacters text = .ok c) :
    c.package = String.intercalate "." (packages.map String.ofList) := by
  obtain ⟨-, -, hpackage, -⟩ := ofCharacters_eq_ok.mp hread
  rw [hpackage, h.cutPackage_eq]

theorem Cut.canonical_eq {c : ClassName} (hread : ofCharacters text = .ok c) :
    c.canonical.toList = packages.flatMap (· ++ ['.']) ++ dotted classes := by
  obtain ⟨-, hnames, -, -, hids⟩ := ofCharacters_eq_ok.mp hread
  rw [h.cutPackage_eq, ← Text.splitOn_map_replace] at hnames
  rw [h.cutPackage_eq] at hids
  have hparts : ∀ part ∈ packages.map String.ofList, isIdentifier part = true := by
    simpa using hids
  calc c.canonical.toList
      = ['.'].intercalate (packages ++ (dotted classes).splitOn '.') := by
        rw [canonical_eq_intercalate (h.package_eq hread) hparts, String.toList_intercalate, hnames]
        simp [Function.comp_def, dotted]
    _ = ['.'].intercalate ((packages.flatMap (· ++ ['.']) ++ dotted classes).splitOn '.') := by
        rw [splitOn_packages fun part hp => (h.packages part hp).1]
    _ = packages.flatMap (· ++ ['.']) ++ dotted classes := List.intercalate_splitOn '.'

end Cut

/-! ## Classes that were read -/

/-- A class that was read has names without separators and a package that does not
look like a class. Its canonical name is the name it was read from, with dots between
the classes, and the class is read back from it exactly when its outermost name has
an uppercase initial or is its only name. -/
theorem canonical_of_parse {name : String} {c : ClassName} (h : parse name = .ok c) :
    c.names ≠ []
      ∧ (∀ part ∈ c.names, isIdentifier part = true ∧ '.' ∉ part.toList ∧ '$' ∉ part.toList)
      ∧ (∀ part ∈ c.packages, startsUppercase part.toList = false)
      ∧ (∃ packages classes, Cut (Text.dropEnds name.toList) packages classes)
      ∧ (∀ packages classes, Cut (Text.dropEnds name.toList) packages classes →
          c.package = String.intercalate "." (packages.map String.ofList)
            ∧ c.canonical.toList = packages.flatMap (· ++ ['.']) ++ dotted classes)
      ∧ (parse c.canonical = .ok c ↔
          startsUppercase c.outermost.toList = true ∨ c.names.length = 1) := by
  have hwf := wellFormed_of_parse h
  have hread := parse_eq_ok.mp h
  refine ⟨List.cons_ne_nil _ _, ?_, fun part hp => (hwf.packages.2 part hp).2, exists_cut _, ?_,
    hwf.parse_canonical_iff⟩
  · intro part hpart
    obtain ⟨hid, hdollar⟩ := hwf.names part hpart
    exact ⟨hid, dot_not_mem hid, hdollar⟩
  · exact fun packages classes hcut => ⟨hcut.package_eq hread, hcut.canonical_eq hread⟩

/-- A class nested in one with a lowercase initial is not read back. The dollar sign of
the package stays. -/
theorem canonical_of_orderLine :
    parse " com.shop$api.order$Line\n" = .ok ⟨"com.shop$api", "order", ["Line"]⟩
      ∧ Cut "com.shop$api.order$Line".toList ["com".toList, "shop$api".toList] "order$Line".toList
      ∧ (ClassName.mk "com.shop$api" "order" ["Line"]).canonical.toList
        = "com.shop$api.order.Line".toList
      ∧ parse "com.shop$api.order.Line" ≠ .ok ⟨"com.shop$api", "order", ["Line"]⟩ := by
  have hread : parse " com.shop$api.order$Line\n" = .ok ⟨"com.shop$api", "order", ["Line"]⟩ := by
    decide +kernel
  have hcut : Cut "com.shop$api.order$Line".toList ["com".toList, "shop$api".toList]
      "order$Line".toList :=
    ⟨by decide, by decide +kernel, .inr (by decide)⟩
  obtain ⟨-, -, -, -, hwritten, hback⟩ := canonical_of_parse hread
  refine ⟨hread, hcut, (hwritten _ _ hcut).2, fun hagain => ?_⟩
  have hcannot := hback.mp hagain
  revert hcannot
  decide +kernel

end ModuleContainers.Java.ClassName
