import ModuleContainers.Proofs.Files.Route
import ModuleContainers.Proofs.Files.Tree

/-!
# Walking a tree

A walk that ends, ends where its path leads, whatever the tree is like
(`walkFrom_found`, `walkFrom_vacant`); the tree only decides whether it gets there.
Down names it gets there if something stands at the end (`walkFrom_names`), and in a
directory it knows the place of a name that is missing (`walkFrom_missing`).

A path that leads to a directory opens it (`Opens`): names that are joined below the
path are walked from that directory on (`Opens.walk_below`).
-/

namespace ModuleContainers.Files.FileTree

open Files (follow follow_of_isName)
open Files.Path (IsName)

variable {current : List String} {root : Path} {tree after : FileTree}
  {place found dir base names segments : List String} {name segment : String}

/-! ## One step -/

theorem walkFrom_nil (tree : FileTree) (place : List String) :
    tree.walkFrom place [] = .ok (.found place) := rfl

/-- From a directory at the place the segment leads on. -/
def Steps (tree : FileTree) (place : List String) (segment : String) : Prop :=
  staysPut segment ∨ segment = ".." ∨ tree.node? (place ++ [segment]) ≠ none

theorem walkFrom_cons_of_steps (hplace : tree.node? place = some .directory)
    (hstep : tree.Steps place segment) :
    tree.walkFrom place (segment :: segments) = tree.walkFrom (follow place segment) segments := by
  obtain ⟨entries, hget⟩ := node?_eq_directory.mp hplace
  rw [walkFrom, follow, hget]
  by_cases hstays : staysPut segment = true
  · simp [hstays]
  · by_cases hup : segment = ".."
    · simp [hup, staysPut]
    · have hsome := (hstep.resolve_left hstays).resolve_left hup
      rw [Ne, node?_entry_eq_none hget] at hsome
      obtain ⟨entry, hentry⟩ := Option.ne_none_iff_exists'.mp hsome
      simp [hstays, hup, hentry]

theorem walkFrom_cons_of_gap (hplace : tree.node? place = some .directory)
    (hgap : ¬ tree.Steps place segment) :
    tree.walkFrom place (segment :: segments)
      = if segments = [] then .ok (.vacant place segment) else .error .missing := by
  obtain ⟨entries, hget⟩ := node?_eq_directory.mp hplace
  simp only [Steps, not_or, not_not] at hgap
  obtain ⟨hstays, hup, hnone⟩ := hgap
  rw [walkFrom, hget]
  simp [hstays, hup, (node?_entry_eq_none hget).mp hnone]

/-- A walk with a first step starts in a directory, and goes on from where the step leads
or ends at a name that is missing. -/
theorem walkFrom_cons_cases {result : Place}
    (h : tree.walkFrom place (segment :: segments) = .ok result) :
    tree.node? place = some .directory
      ∧ (tree.Steps place segment ∧ tree.walkFrom (follow place segment) segments = .ok result
        ∨ ¬ tree.Steps place segment ∧ segments = [] ∧ result = .vacant place segment) := by
  by_cases hplace : tree.node? place = some .directory
  · by_cases hstep : tree.Steps place segment
    · rw [walkFrom_cons_of_steps hplace hstep] at h
      exact ⟨hplace, .inl ⟨hstep, h⟩⟩
    · rw [walkFrom_cons_of_gap hplace hstep] at h
      split at h
      · next hlast => exact ⟨hplace, .inr ⟨hstep, hlast, (Except.ok.inj h).symm⟩⟩
      · cases h
  · rw [node?_eq_directory] at hplace
    rw [walkFrom] at h
    rcases hget : tree.get? place with _ | ⟨contents | entries⟩
    · simp [hget] at h
    · simp [hget] at h
    · exact absurd ⟨entries, hget⟩ hplace

/-! ## Where a walk ends -/

theorem walkFrom_found (h : tree.walkFrom place segments = .ok (.found found)) :
    segments.foldl follow place = found := by
  induction segments generalizing place with
  | nil =>
      rw [walkFrom_nil] at h
      cases h
      rfl
  | cons segment segments ih =>
      obtain ⟨-, ⟨-, hrest⟩ | ⟨-, -, hresult⟩⟩ := walkFrom_cons_cases h
      · exact ih hrest
      · cases hresult

theorem walkFrom_vacant (h : tree.walkFrom place segments = .ok (.vacant dir name)) :
    segments.foldl follow place = dir ++ [name] ∧ tree.node? dir = some .directory
      ∧ tree.node? (dir ++ [name]) = none := by
  induction segments generalizing place with
  | nil =>
      rw [walkFrom_nil] at h
      cases h
  | cons segment segments ih =>
      obtain ⟨hplace, ⟨-, hrest⟩ | ⟨hgap, rfl, hresult⟩⟩ := walkFrom_cons_cases h
      · exact ih hrest
      · cases hresult
        simp only [Steps, not_or, not_not] at hgap
        obtain ⟨hstays, hup, hnone⟩ := hgap
        exact ⟨by simp [follow, hstays, hup], hplace, hnone⟩

/-- What comes after a part of the way goes on from there. -/
theorem walkFrom_append (h : tree.walkFrom place segments = .ok (.found found))
    (rest : List String) : tree.walkFrom place (segments ++ rest) = tree.walkFrom found rest := by
  induction segments generalizing place with
  | nil =>
      rw [walkFrom_nil] at h
      cases h
      rfl
  | cons segment segments ih =>
      obtain ⟨hplace, ⟨hstep, hrest⟩ | ⟨-, -, hresult⟩⟩ := walkFrom_cons_cases h
      · rw [List.cons_append, walkFrom_cons_of_steps hplace hstep, ih hrest]
      · cases hresult

/-- A slash at the end is no step. -/
theorem walkFrom_of_slash (h : tree.walkFrom place (segments ++ [""]) = .ok (.found found)) :
    tree.walkFrom place segments = .ok (.found found) := by
  induction segments generalizing place with
  | nil =>
      obtain ⟨-, ⟨-, hrest⟩ | ⟨-, -, hresult⟩⟩ := walkFrom_cons_cases h
      · exact hrest
      · cases hresult
  | cons segment segments ih =>
      obtain ⟨hplace, ⟨hstep, hrest⟩ | ⟨-, hlast, -⟩⟩ := walkFrom_cons_cases h
      · rw [walkFrom_cons_of_steps hplace hstep]
        exact ih hrest
      · simp at hlast

/-- A walk that gets to a directory also does so where more directories stand. -/
theorem walkFrom_mono
    (hkept : ∀ place, tree.node? place = some .directory → after.node? place = some .directory)
    (hfound : tree.node? found = some .directory)
    (h : tree.walkFrom place segments = .ok (.found found)) :
    after.walkFrom place segments = .ok (.found found)
      ∧ tree.node? place = some .directory := by
  induction segments generalizing place with
  | nil =>
      rw [walkFrom_nil] at h
      cases h
      exact ⟨rfl, hfound⟩
  | cons segment segments ih =>
      obtain ⟨hplace, ⟨hstep, hrest⟩ | ⟨-, -, hresult⟩⟩ := walkFrom_cons_cases h
      · obtain ⟨hafter, hnext⟩ := ih hrest
        have hkeeps : after.Steps place segment := by
          by_contra hgap
          simp only [Steps, not_or, not_not] at hgap
          obtain ⟨hstays, hup, hnone⟩ := hgap
          rw [follow, if_neg hstays, if_neg hup] at hnext
          simp [hkept _ hnext] at hnone
        rw [walkFrom_cons_of_steps (hkept place hplace) hkeeps]
        exact ⟨hafter, hplace⟩
      · cases hresult

theorem walk_eq_ok {path : Path} {result : Place} (h : tree.walk current path = .ok result) :
    tree.walkFrom (start current path) path.segments = .ok result := by
  rw [walk] at h
  split at h
  · cases h
  · exact h

theorem walk_found {path : Path} (h : tree.walk current path = .ok (.found found)) :
    path.target current = found :=
  walkFrom_found (walk_eq_ok h)

theorem walk_vacant {path : Path} (h : tree.walk current path = .ok (.vacant dir name)) :
    path.target current = dir ++ [name] ∧ tree.node? dir = some .directory
      ∧ tree.node? (dir ++ [name]) = none :=
  walkFrom_vacant (walk_eq_ok h)

/-! ## Down names -/

theorem walkFrom_names (hnames : ∀ name ∈ names, IsName name)
    (h : tree.node? (place ++ names) ≠ none) :
    tree.walkFrom place names = .ok (.found (place ++ names)) := by
  induction names generalizing place with
  | nil => rw [walkFrom_nil, List.append_nil]
  | cons name rest ih =>
      obtain ⟨hname, hrest⟩ := List.forall_mem_cons.mp hnames
      have hplace := directory_of_below (List.cons_ne_nil name rest) h
      rw [List.append_cons] at h ⊢
      have hstep : tree.node? (place ++ [name]) ≠ none := by
        by_cases hlast : rest = []
        · simpa [hlast] using h
        · rw [directory_of_below hlast h]
          simp
      rw [walkFrom_cons_of_steps hplace (.inr (.inr hstep)), follow_of_isName hname, ih hrest h]

theorem not_steps (hname : IsName name) (hnone : tree.node? (place ++ [name]) = none) :
    ¬ tree.Steps place name := by
  simp [Steps, staysPut, hname.empty, hname.current, hname.parent, hnone]

/-- Behind a name that is missing no way leads on. -/
theorem walkFrom_missing (hnames : ∀ name ∈ names, IsName name) (hname : IsName name)
    (hdir : tree.node? (place ++ names) = some .directory)
    (hnone : tree.node? (place ++ names ++ [name]) = none) (rest : List String) :
    tree.walkFrom place (names ++ name :: rest)
      = if rest = [] then .ok (.vacant (place ++ names) name) else .error .missing := by
  rw [walkFrom_append (walkFrom_names hnames (by simp [hdir])),
    walkFrom_cons_of_gap hdir (not_steps hname hnone)]

/-! ## Directories that are opened -/

/-- The path leads to the directory at the place. What is joined to the empty path
starts in the current directory. -/
structure Opens (current : List String) (tree : FileTree) (root : Path) (base : List String) :
    Prop where
  leads : root.text = "" ∧ current = base ∨ tree.walk current root = .ok (.found base)
  directory : tree.node? base = some .directory

theorem Opens.mono (h : Opens current tree root base)
    (hkept : ∀ place, tree.node? place = some .directory → after.node? place = some .directory) :
    Opens current after root base where
  leads := by
    refine h.leads.imp_right fun hwalk => ?_
    rw [walk] at hwalk ⊢
    split at hwalk
    · cases hwalk
    · next hfull => rw [if_neg hfull, (walkFrom_mono hkept h.directory hwalk).1]
  directory := hkept base h.directory

theorem Opens.walk_below (h : Opens current tree root base) (hnames : ∀ name ∈ names, IsName name)
    (hne : names ≠ []) : tree.walk current (root.below names) = tree.walkFrom base names := by
  rw [walk, if_neg (Path.text_below_ne root hnames hne), start,
    Path.isAbsolute_below root hnames hne, ← start, Path.segments_below root hnames hne]
  rcases h.leads with ⟨hempty, rfl⟩ | hwalk
  · obtain ⟨text⟩ := root
    obtain rfl : text = "" := hempty
    rfl
  · have hfound := walk_eq_ok hwalk
    refine walkFrom_append ?_ names
    rcases root.segments_eq_stem with hsegments | ⟨hsegments, -⟩
    · exact walkFrom_of_slash (hsegments ▸ hfound)
    · exact hsegments ▸ hfound

end ModuleContainers.Files.FileTree
