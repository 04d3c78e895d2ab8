import ModuleContainers.Proofs.Java.FirstClaim

/-!
# Classes that are spelled alike

A class that does not own its simple name is written in full, to keep it apart from the
owner. That works for classes in packages whose names begin with an uppercase letter.
There are three ways around it (`Alike`). A class without a package has no other name
than the one that it lost. The nested path of an owner can begin with the package of
another class, when its outermost name has a lowercase initial. And two classes can
have one full name, because it does not say where the package ends.

`nameOf_eq_nameOf_iff` says that there is no fourth. The spelling of a class is taken
as its list of segments (`segmentsOf`), and two lists that are concatenations can only
agree when one of the first parts is continued by the other.
-/

namespace ModuleContainers.Java.ImportTable

open ClassName (startsUppercase)

section Alike

variable (package own : String) (types : List ClassName)

/-- The first class is written, in a file, the way the second one is. -/
inductive Alike : ClassName → ClassName → Prop where
  /-- The name belongs to a class in a package, and the other has no package to add. -/
  | bare {c d : ClassName} (howns : Owns package own types c) (hpackage : d.package = "")
      (hnames : c.names = d.names) : Alike c d
  /-- The outer classes of an owner look like the package of the other class. -/
  | nested {c d : ClassName} (howns : Owns package own types c)
      (hother : ¬ Owns package own types d) (hpackage : d.package ≠ "")
      (hnames : c.names = d.packages ++ d.names) : Alike c d
  /-- Both are written in full, and the package of the second goes on with outer
  classes of the first. -/
  | full {c d : ClassName} {outer : List String} (hfirst : ¬ Owns package own types c)
      (hother : ¬ Owns package own types d) (houter : outer ≠ [])
      (hpackages : d.packages = c.packages ++ outer) (hnames : c.names = outer ++ d.names) :
      Alike c d

/-- The segments that a class is written with. -/
def segmentsOf (c : ClassName) : List String :=
  if Owns package own types c then c.names else c.packages ++ c.names

end Alike

variable {package own : String} {types : List ClassName}

theorem nameOf_eq_intercalate {c : ClassName} (h : c.WellFormed) :
    (build package own types).nameOf c
      = String.intercalate "." (segmentsOf package own types c) := by
  rw [nameOf_eq, segmentsOf]
  split
  · rfl
  · exact h.canonical_eq

theorem splitOn_nameOf {c : ClassName} (h : c.WellFormed) :
    Text.splitOn '.' ((build package own types).nameOf c) = segmentsOf package own types c := by
  rw [nameOf_eq, segmentsOf]
  split
  · exact splitOn_intercalate (fun name hn => dot_not_mem (h.names name hn).1)
      (List.cons_ne_nil _ _)
  · exact h.splitOn_canonical

/-- A spelling shows its segments. -/
theorem nameOf_eq_nameOf_iff_segments {c d : ClassName} (hc : c.WellFormed) (hd : d.WellFormed) :
    (build package own types).nameOf c = (build package own types).nameOf d ↔
      segmentsOf package own types c = segmentsOf package own types d := by
  constructor
  · intro heq
    rw [← splitOn_nameOf hc, ← splitOn_nameOf hd, heq]
  · intro heq
    rw [nameOf_eq_intercalate hc, nameOf_eq_intercalate hd, heq]

/-! ## Classes that differ -/

/-- A name has one owner. -/
theorem eq_of_owns {c d : ClassName} (hc : Owns package own types c)
    (hd : Owns package own types d) (hnames : c.names = d.names) : c = d := by
  refine ClassName.eq_of_names hnames ?_
  unfold Owns at hc hd
  rw [(List.cons.inj hnames).1, hd] at hc
  exact (ClassName.mk.inj (Option.some.inj hc)).1.symm

theorem packages_nil {c : ClassName} (h : c.package = "") : c.packages = [] := if_pos h

/-! ## Spelled alike -/

theorem alike_of_owner {c d : ClassName} (howns : Owns package own types c)
    (hother : ¬ Owns package own types d) (hnames : c.names = d.packages ++ d.names) :
    Alike package own types c d := by
  by_cases hpackage : d.package = ""
  · rw [packages_nil hpackage, List.nil_append] at hnames
    exact .bare howns hpackage hnames
  · exact .nested howns hother hpackage hnames

theorem alike_in_full {c d : ClassName} (hc : c.WellFormed) (hd : d.WellFormed) (hne : c ≠ d)
    (hfirst : ¬ Owns package own types c) (hother : ¬ Owns package own types d)
    {outer : List String} (hpackages : d.packages = c.packages ++ outer)
    (hnames : c.names = outer ++ d.names) : Alike package own types c d := by
  refine .full hfirst hother (fun hnil => hne ?_) hpackages hnames
  rw [hnil, List.append_nil] at hpackages
  rw [hnil, List.nil_append] at hnames
  exact ClassName.eq_of_names hnames (by rw [hc.packages.1, hd.packages.1, hpackages])

theorem alike_of_segments {c d : ClassName} (hc : c.WellFormed) (hd : d.WellFormed) (hne : c ≠ d)
    (h : segmentsOf package own types c = segmentsOf package own types d) :
    Alike package own types c d ∨ Alike package own types d c := by
  unfold segmentsOf at h
  by_cases hfirst : Owns package own types c <;> by_cases hsecond : Owns package own types d
  · rw [if_pos hfirst, if_pos hsecond] at h
    exact absurd (eq_of_owns hfirst hsecond h) hne
  · rw [if_pos hfirst, if_neg hsecond] at h
    exact .inl (alike_of_owner hfirst hsecond h)
  · rw [if_neg hfirst, if_pos hsecond] at h
    exact .inr (alike_of_owner hsecond hfirst h.symm)
  · rw [if_neg hfirst, if_neg hsecond, List.append_eq_append_iff] at h
    -- The shorter of the packages is the beginning of the other one.
    rcases h with ⟨outer, hpackages, hnames⟩ | ⟨outer, hpackages, hnames⟩
    · exact .inl (alike_in_full hc hd hne hfirst hsecond hpackages hnames)
    · exact .inr (alike_in_full hd hc hne.symm hsecond hfirst hpackages hnames)

theorem Alike.segments {c d : ClassName} (hne : c ≠ d) (h : Alike package own types c d) :
    segmentsOf package own types c = segmentsOf package own types d := by
  unfold segmentsOf
  cases h with
  | bare howns hpackage hnames =>
      have hother : ¬ Owns package own types d := fun hd => hne (eq_of_owns howns hd hnames)
      rw [if_pos howns, if_neg hother, packages_nil hpackage, List.nil_append, hnames]
  | nested howns hother _ hnames => rw [if_pos howns, if_neg hother, hnames]
  | full hfirst hother _ hpackages hnames =>
      rw [if_neg hfirst, if_neg hother, hpackages, hnames, List.append_assoc]

/-- There is a class without a package, or one whose outermost class looks like a
package. -/
theorem Alike.lowercase {c d : ClassName} (hd : d.WellFormed) (h : Alike package own types c d) :
    d.package = "" ∨ startsUppercase c.outermost.toList = false := by
  have hhead : ∀ outer : List String, outer ≠ [] → c.names = outer ++ d.names →
      c.outermost ∈ outer := by
    intro outer houter hnames
    cases outer with
    | nil => exact absurd rfl houter
    | cons first more =>
        rw [ClassName.names, List.cons_append] at hnames
        rw [(List.cons.inj hnames).1]
        exact List.mem_cons_self ..
  cases h with
  | bare _ hpackage _ => exact .inl hpackage
  | nested _ _ hpackage hnames =>
      by_cases hnone : d.packages = []
      · exact .inl (by rw [hd.packages.1, hnone]; rfl)
      · exact .inr (hd.packages.2 _ (hhead _ hnone hnames)).2
  | full _ _ houter hpackages hnames =>
      refine .inr (hd.packages.2 _ ?_).2
      rw [hpackages]
      exact List.mem_append_right _ (hhead _ houter hnames)

/-- Two classes of a file are spelled alike exactly in the three ways. So classes in
packages whose outermost names have an uppercase initial are never spelled alike. -/
theorem nameOf_eq_nameOf_iff (hread : ∀ c ∈ types, ∃ name, ClassName.parse name = .ok c)
    {c d : ClassName} (hc : c ∈ types) (hd : d ∈ types) (hne : c ≠ d) :
    ((build package own types).nameOf c = (build package own types).nameOf d ↔
        Alike package own types c d ∨ Alike package own types d c)
      ∧ (c.package ≠ "" → d.package ≠ "" → startsUppercase c.outermost.toList = true →
          startsUppercase d.outermost.toList = true →
          (build package own types).nameOf c ≠ (build package own types).nameOf d) := by
  have hwf : ∀ c ∈ types, c.WellFormed := fun c hmem =>
    have ⟨_, hname⟩ := hread c hmem
    ClassName.wellFormed_of_parse hname
  have hiff : (build package own types).nameOf c = (build package own types).nameOf d ↔
      Alike package own types c d ∨ Alike package own types d c := by
    rw [nameOf_eq_nameOf_iff_segments (hwf c hc) (hwf d hd)]
    constructor
    · exact alike_of_segments (hwf c hc) (hwf d hd) hne
    · rintro (halike | halike)
      · exact halike.segments hne
      · exact (halike.segments hne.symm).symm
  refine ⟨hiff, fun hcPackage hdPackage hcUpper hdUpper heq => ?_⟩
  rcases hiff.mp heq with halike | halike
  · rcases halike.lowercase (hwf d hd) with hnone | hlower
    · exact hdPackage hnone
    · simp [hcUpper] at hlower
  · rcases halike.lowercase (hwf c hc) with hnone | hlower
    · exact hcPackage hnone
    · simp [hdUpper] at hlower

/-- A class `C` nested in `a.b`, another `C`, and the `C` of a package `b`. -/
def crossedReferences : List ClassName := [⟨"a", "b", ["C"]⟩, ⟨"x", "C", []⟩, ⟨"b", "C", []⟩]

/-- `b.C` is written for two classes. -/
theorem crossedReferences_alike :
    (∀ c ∈ crossedReferences, ∃ name, ClassName.parse name = .ok c)
      ∧ Alike "com.example" "Module" crossedReferences ⟨"a", "b", ["C"]⟩ ⟨"b", "C", []⟩
      ∧ (build "com.example" "Module" crossedReferences).nameOf ⟨"a", "b", ["C"]⟩
        = (build "com.example" "Module" crossedReferences).nameOf ⟨"b", "C", []⟩ := by
  have hread : ∀ c ∈ crossedReferences, ∃ name, ClassName.parse name = .ok c := by
    simp only [crossedReferences, List.forall_mem_cons]
    exact ⟨⟨"a.b$C", by decide +kernel⟩, ⟨"x.C", by decide +kernel⟩, ⟨"b.C", by decide +kernel⟩,
      by simp⟩
  have halike : Alike "com.example" "Module" crossedReferences ⟨"a", "b", ["C"]⟩ ⟨"b", "C", []⟩ :=
    .nested (by decide +kernel) (by decide +kernel) (by decide) (by decide +kernel)
  exact ⟨hread, halike,
    (nameOf_eq_nameOf_iff hread (by decide) (by decide) (by decide)).1.mpr (.inl halike)⟩

/-- Two classes named `Widget`, one of them without a package. -/
def widgetReferences : List ClassName := [⟨"com.a", "Widget", []⟩, ⟨"", "Widget", []⟩]

/-- The class that comes first takes the name, and the one without a package is written
by it all the same. -/
theorem widgetReferences_spelled_alike :
    (∀ c ∈ widgetReferences, ∃ name, ClassName.parse name = .ok c)
      ∧ ClassName.mk "com.a" "Widget" [] ≠ ⟨"", "Widget", []⟩
      ∧ (build "com.example" "Module" widgetReferences).nameOf ⟨"com.a", "Widget", []⟩ = "Widget"
      ∧ (build "com.example" "Module" widgetReferences).nameOf ⟨"", "Widget", []⟩ = "Widget" := by
  refine ⟨?_, by decide, by decide +kernel, by decide +kernel⟩
  simp only [widgetReferences, List.forall_mem_cons]
  exact ⟨⟨"com.a.Widget", by decide +kernel⟩, ⟨"Widget", by decide +kernel⟩, by simp⟩

end ModuleContainers.Java.ImportTable
