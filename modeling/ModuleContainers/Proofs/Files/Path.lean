import Mathlib.Data.List.Basic
import Mathlib.Data.List.Induction
import Mathlib.Order.Compare
import ModuleContainers.Files.Path
import ModuleContainers.Proofs.Text.Splitting

/-!
# Components of paths

Paths are told apart and put in order by their components alone, and no two
different components are equal in that order. Names that were joined below the
empty path can be read off again: where no name is empty, a dot or two dots, and
none has a slash, the joined path has one component for each of them
(`components_joined`).
-/

namespace ModuleContainers.Files

namespace Component

/-- The name, for components that have one. -/
def text : Component → String
  | .name text => text
  | .root => ""
  | .current => ""
  | .parent => ""

/-- Components are compared by rank, and names by their characters. -/
theorem order_eq_compareLex : order = compareLex (compareOn order.rank) (compareOn text) := by
  funext a b
  cases a <;> cases b <;> simp only [order, compareLex, compareOn, order.rank, text] <;> rfl

instance : Std.TransCmp order := order_eq_compareLex ▸ inferInstance

instance : Std.LawfulEqCmp order where
  eq_of_compare {a b} h := by
    cases a <;> cases b
    case name.name => exact congrArg name (Std.LawfulEqOrd.eq_of_compare h)
    all_goals first | rfl | cases h

end Component

namespace Path

/-! ## Order -/

theorem compareAll_eq_compareLex :
    ∀ a b : List Component, order.compareAll a b = List.compareLex Component.order a b
  | [], [] => rfl
  | [], _ :: _ => rfl
  | _ :: _, [] => rfl
  | a :: as, b :: bs => by
      rw [order.compareAll, compareAll_eq_compareLex as bs, List.compareLex]
      cases Component.order a b <;> rfl

theorem order_eq_compareLex (a b : Path) :
    order a b = List.compareLex Component.order a.components b.components :=
  compareAll_eq_compareLex _ _

instance : Std.TransCmp order where
  eq_swap {a b} := by simpa only [order_eq_compareLex] using Std.OrientedCmp.eq_swap
  isLE_trans {a b c} := by simpa only [order_eq_compareLex] using Std.TransCmp.isLE_trans

theorem order_eq_iff {a b : Path} : order a b = .eq ↔ a.components = b.components := by
  rw [order_eq_compareLex, Std.LawfulEqCmp.compare_eq_iff_eq]

/-- Of two paths in order the first one comes first. -/
theorem order_asymm {a b : Path} (h : order a b = .lt) : order b a ≠ .lt := by
  rw [Std.OrientedCmp.gt_iff_lt.mpr h]
  decide

theorem same_iff {a b : Path} : a.same b = true ↔ a.components = b.components := by
  rw [same, beq_iff_eq]

/-! ## Joined names -/

theorem innerComponent_of_isName {segment : String} (h : IsName segment) :
    innerComponent segment = some (.name segment) := by
  simp [innerComponent, h.empty, h.current, h.parent]

theorem isName_concat {names : List String} {last : String}
    (hnames : ∀ name ∈ names, IsName name) (hlast : IsName last) :
    ∀ name ∈ names ++ [last], IsName name :=
  List.forall_mem_append.mpr ⟨hnames, List.forall_mem_singleton.mpr hlast⟩

/-- The path of names with a slash between any two. -/
def joined (names : List String) : Path := ⟨String.intercalate "/" names⟩

variable {names : List String}

theorem joined_concat (last : String) (hne : names ≠ []) :
    joined (names ++ [last]) = ⟨(joined names).text ++ "/" ++ last⟩ := by
  rw [joined, String.intercalate_append_of_ne_nil hne (by simp)]
  simp [joined]

theorem isAbsolute_joined (hnames : ∀ name ∈ names, IsName name) :
    (joined names).isAbsolute = false := by
  cases names with
  | nil => rfl
  | cons first rest =>
      have hfirst := hnames first (List.mem_cons_self ..)
      obtain ⟨c, more, hchars⟩ := List.exists_cons_of_ne_nil (show first.toList ≠ [] by
        simpa using hfirst.empty)
      have hc : c ≠ '/' := fun h => hfirst.slash (by rw [hchars, h]; exact List.mem_cons_self ..)
      cases rest <;> simp [isAbsolute, joined, hchars, hc]

theorem exists_joined_concat (init : List String) (last : String) :
    ∃ before, (joined (init ++ [last])).text = before ++ last := by
  cases init with
  | nil => exact ⟨"", by simp [joined]⟩
  | cons first rest => exact ⟨_, congrArg text (joined_concat last (by simp))⟩

/-- The joined path ends as its last piece does, so not with a slash. -/
theorem joined_concat_ends (init : List String) {last : String} (hempty : last ≠ "")
    (hslash : '/' ∉ last.toList) :
    (joined (init ++ [last])).text ≠ ""
      ∧ (joined (init ++ [last])).text.toList.getLast? ≠ some '/' := by
  have hchars : last.toList ≠ [] := by simpa using hempty
  obtain ⟨before, hbefore⟩ := exists_joined_concat init last
  rw [hbefore, String.toList_append, List.getLast?_append, List.getLast?_eq_some_getLast hchars]
  refine ⟨by simp [hempty], fun h => hslash ?_⟩
  obtain hlast : last.toList.getLast hchars = '/' := by simpa using h
  exact hlast ▸ List.getLast_mem hchars

theorem joined_ends (hnames : ∀ name ∈ names, IsName name) (hne : names ≠ []) :
    (joined names).text ≠ "" ∧ (joined names).text.toList.getLast? ≠ some '/' := by
  obtain ⟨init, last, rfl⟩ := (List.eq_nil_or_concat' names).resolve_left hne
  have hlast := hnames last (by simp)
  exact joined_concat_ends init hlast.empty hlast.slash

theorem join_joined (hnames : ∀ name ∈ names, IsName name) {last : String}
    (hlast : IsName last) : (joined names).join ⟨last⟩ = joined (names ++ [last]) := by
  have halone : ∀ name ∈ [last], IsName name := by simpa using hlast
  have hbelow : (Path.mk last).isAbsolute = false := by
    simpa [joined] using isAbsolute_joined halone
  by_cases hne : names = []
  · simp [hne, join, joined]
  · obtain ⟨hfull, hslash⟩ := joined_ends hnames hne
    rw [join, if_neg (by simp [hbelow, hfull]), if_neg hslash, joined_concat last hne]

theorem foldl_join (hnames : ∀ name ∈ names, IsName name) :
    (names.map Path.mk).foldl join ⟨""⟩ = joined names := by
  induction names using List.reverseRecOn with
  | nil => rfl
  | append_singleton init last ih =>
      rw [List.map_append, List.foldl_append, ih fun name hn => hnames name (by simp [hn])]
      exact join_joined (fun name hn => hnames name (by simp [hn])) (hnames last (by simp))

/-- Every joined name is a component of its own. -/
theorem components_joined (hnames : ∀ name ∈ names, IsName name) :
    (joined names).components = names.map .name := by
  cases names with
  | nil => rfl
  | cons first rest =>
      have hsegments : (joined (first :: rest)).segments = first :: rest :=
        Text.splitOn_intercalate rfl (fun name hn => (hnames name hn).slash) (by simp)
      have hinner : rest.filterMap innerComponent = rest.map .name := by
        rw [← List.filterMap_eq_map]
        exact List.filterMap_congr fun name hn =>
          innerComponent_of_isName (hnames name (List.mem_cons_of_mem _ hn))
      have hfirst := hnames first (List.mem_cons_self ..)
      rw [components, hsegments, isAbsolute_joined hnames]
      simp [firstComponent, hfirst.current, innerComponent_of_isName hfirst, hinner]

end Path

end ModuleContainers.Files
