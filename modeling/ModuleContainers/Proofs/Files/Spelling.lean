import ModuleContainers.Proofs.Files.Walk

/-!
# Paths that are spelled by names

Dots and repeated slashes make no difference for where a path leads, and so there are
many spellings of one way down. A path spells some directories and a name
(`Path.Spells`) when these are what is left of its segments. Each path of names does
so (`Path.Ordinary.spells`).

In any tree such a path is walked as its names are (`Spells.walk`), and what contains
its end is spelled by the directories alone (`Spells.directory`).
-/

namespace ModuleContainers.Files

open FileTree (start staysPut)

namespace Path

variable {current : List String} {path : Path} {tree : FileTree} {place dirs init : List String}
  {dir name : String}

/-- The path leads down the directories and to the name, from where it starts. It may
have dots and slashes in between, but none behind the name. -/
structure Spells (path : Path) (dirs : List String) (name : String) : Prop where
  isDir : ∀ dir ∈ dirs, IsName dir
  isLast : IsName name
  segments : ∃ init, path.segments = init ++ [name]
    ∧ init.filter (fun segment => !staysPut segment) = dirs

/-- A path of names: none of its components leads back, and it ends with a name. A slash
behind the name would ask for a directory, and no file can be written there, whatever the
tree is like. -/
structure Ordinary (path : Path) : Prop where
  straight : Component.parent ∉ path.components
  ends : ∃ name, path.segments.getLast? = some name ∧ IsName name

/-- Two dots are a component wherever they stand. -/
theorem parent_mem_components (h : ".." ∈ path.segments) :
    Component.parent ∈ path.components := by
  have hinner : innerComponent ".." = some .parent := by decide
  rw [components]
  split
  · next hnil => exact absurd hnil path.segments_ne_nil
  · next first rest hsegments =>
      rw [hsegments] at h
      refine List.mem_append.mpr ((List.mem_cons.mp h).imp ?_ fun hrest => ?_)
      · rintro rfl
        have hrelative : path.isAbsolute = false := by
          rw [Bool.eq_false_iff, Ne, isAbsolute_iff, hsegments]
          simp
        simp [firstComponent, hrelative, hinner]
      · exact List.mem_filterMap.mpr ⟨"..", hrest, hinner⟩

theorem Ordinary.spells (h : path.Ordinary) : ∃ dirs name, path.Spells dirs name := by
  obtain ⟨name, hlast, hname⟩ := h.ends
  obtain ⟨init, hsegments⟩ := List.getLast?_eq_some_iff.mp hlast
  refine ⟨_, name, fun dir hdir => ?_, hname, init, hsegments, rfl⟩
  obtain ⟨hmem, hstays⟩ := List.mem_filter.mp hdir
  have hsegment : dir ∈ path.segments := hsegments ▸ List.mem_append_left _ hmem
  obtain ⟨hempty, hdot⟩ : dir ≠ "" ∧ dir ≠ "." := by simpa [staysPut] using hstays
  exact ⟨path.slash_not_mem_segments dir hsegment, hempty, hdot,
    fun hdots => h.straight (parent_mem_components (hdots ▸ hsegment))⟩

theorem Spells.isName (h : path.Spells dirs name) : ∀ segment ∈ dirs ++ [name], IsName segment :=
  isName_concat h.isDir h.isLast

theorem Spells.text_ne (h : path.Spells dirs name) : path.text ≠ "" := by
  obtain ⟨init, hsegments, -⟩ := h.segments
  intro htext
  have hempty : path.segments = [""] := by rw [Path.segments, htext]; rfl
  have hlast := congrArg List.getLast? (hempty.symm.trans hsegments)
  simp only [List.getLast?_concat, List.getLast?_singleton, Option.some.injEq] at hlast
  exact h.isLast.empty hlast.symm

theorem Spells.hasParent (h : path.Spells dirs name) :
    ¬ (path.text = "" ∨ path.parent? = none) := by
  obtain ⟨init, hsegments, -⟩ := h.segments
  exact not_or.mpr ⟨h.text_ne, parent?_ne_none hsegments h.isLast⟩

theorem Spells.target_eq (h : path.Spells dirs name) (current : List String) :
    path.target current = start current path ++ dirs ++ [name] := by
  obtain ⟨init, hsegments, rfl⟩ := h.segments
  have hfollow : ∀ place, init.foldl follow place
      = (init.filter fun segment => !staysPut segment).foldl follow place := by
    intro place
    rw [List.foldl_filter]
    congr 1
    funext place segment
    cases hstays : staysPut segment <;> simp [follow, hstays]
  rw [target, hsegments, List.foldl_append, hfollow, ← List.foldl_append,
    foldl_follow_names h.isName, List.append_assoc]

/-! ## Walking -/

theorem walkFrom_cons_of_staysPut {segment : String} {rest : List String}
    (hstays : staysPut segment = true) (hrest : rest ≠ []) :
    tree.walkFrom place (segment :: rest) = tree.walkFrom place rest := by
  obtain ⟨next, more, rfl⟩ := List.exists_cons_of_ne_nil hrest
  rw [FileTree.walkFrom]
  rcases hget : tree.get? place with _ | ⟨contents | entries⟩
  · rw [FileTree.walkFrom, hget]
  · rw [FileTree.walkFrom, hget]
  · simp only [hstays, if_true]

/-- Before a name, what stays put can be left out: the name needs a directory there,
too. -/
theorem walkFrom_filter (name : String) (init place : List String) :
    tree.walkFrom place (init ++ [name])
      = tree.walkFrom place (init.filter (fun segment => !staysPut segment) ++ [name]) := by
  induction init generalizing place with
  | nil => rfl
  | cons segment rest ih =>
      cases hstays : staysPut segment with
      | true =>
          rw [List.cons_append, walkFrom_cons_of_staysPut hstays (by simp), ih,
            List.filter_cons_of_neg (by simp [hstays])]
      | false =>
          rw [List.filter_cons_of_pos (by simp [hstays]), List.cons_append, List.cons_append,
            FileTree.walkFrom, FileTree.walkFrom]
          simp [ih]

theorem Spells.walk (h : path.Spells dirs name) (current : List String) (tree : FileTree) :
    tree.walk current path = tree.walkFrom (start current path) (dirs ++ [name]) := by
  have htext := h.text_ne
  obtain ⟨init, hsegments, rfl⟩ := h.segments
  rw [FileTree.walk, if_neg htext, hsegments, walkFrom_filter name]

/-! ## The directory of a path -/

theorem innerComponent_of_staysPut {segment : String} (h : staysPut segment = true) :
    innerComponent segment = none := by
  rw [innerComponent, if_pos (by simpa [staysPut] using h)]

theorem dropSilent_append (keepsFirst : Bool) {segments silent : List String}
    (hne : segments ≠ []) (hsilent : ∀ segment ∈ silent, staysPut segment = true) :
    dropSilent keepsFirst (segments ++ silent) = dropSilent keepsFirst segments := by
  induction silent using List.reverseRecOn with
  | nil => rw [List.append_nil]
  | append_singleton silent last ih =>
      obtain ⟨hbefore, hlast⟩ := List.forall_mem_append.mp hsilent
      have hnone := innerComponent_of_staysPut (hlast last (List.mem_singleton_self _))
      have hdropped : ∀ l : List String,
          (l ++ [last]).reverse.dropWhile (fun s => (innerComponent s).isNone)
            = l.reverse.dropWhile fun s => (innerComponent s).isNone := by
        simp [hnone]
      rw [← ih hbefore, ← List.append_assoc]
      cases keepsFirst with
      | false =>
          simp only [dropSilent, Bool.false_eq_true, if_false, List.filter_nil, List.nil_append,
            hdropped]
      | true =>
          obtain ⟨first, rest, rfl⟩ := List.exists_cons_of_ne_nil hne
          simp only [dropSilent, if_true, List.cons_append, List.take_succ_cons, List.take_zero,
            List.drop_succ_cons, List.drop_zero, hdropped]

/-- The directory of the path is spelled by the directories alone, and starts where the
path does. -/
theorem Spells.parent? (h : path.Spells (dirs ++ [dir]) name) :
    ∃ parent, path.parent? = some parent ∧ parent.Spells dirs dir
      ∧ parent.isAbsolute = path.isAbsolute := by
  obtain ⟨init, hsegments, hfilter⟩ := h.segments
  obtain ⟨before, behind, rfl, hbefore, hbehind⟩ := List.filter_eq_append_iff.mp hfilter
  obtain ⟨between, silent, rfl, hbetween, -, hsilent⟩ := List.filter_eq_cons_iff.mp hbehind
  have hdir : IsName dir := h.isDir dir (by simp)
  have hdirs : ∀ other ∈ dirs, IsName other := fun other ho => h.isDir other (by simp [ho])
  have hstays : ∀ segment ∈ silent, staysPut segment = true := by
    simpa [List.filter_eq_nil_iff] using hsilent
  have hup : (before ++ between).filter (fun segment => !staysPut segment) = dirs := by
    rw [List.filter_append, hbefore, List.filter_eq_nil_iff.mpr hbetween, List.append_nil]
  have hinit : before ++ (between ++ dir :: silent) = before ++ between ++ [dir] ++ silent := by
    simp
  rw [hinit] at hsegments
  generalize before ++ between = up at hup hsegments
  have hslash : ∀ segment ∈ up ++ [dir], '/' ∉ segment.toList := fun segment hsegment =>
    path.slash_not_mem_segments segment
      (hsegments ▸ List.mem_append_left _ (List.mem_append_left _ hsegment))
  have hparent : (joined (up ++ [dir])).segments = up ++ [dir] :=
    segments_joined hslash (by simp)
  refine ⟨joined (up ++ [dir]), ?_, ⟨hdirs, hdir, up, hparent, hup⟩, ?_⟩
  · by_cases habsolute : path.isAbsolute = true
    · obtain ⟨hhead, -⟩ := path.isAbsolute_iff.mp habsolute
      cases up with
      | nil => simp [hsegments, hdir.empty] at hhead
      | cons first rest =>
          obtain rfl : first = "" := by simpa [hsegments] using hhead
          rw [parent?_of_absolute habsolute hsegments h.isLast, List.cons_append, List.cons_append,
            List.drop_succ_cons, List.drop_zero, dropSilent_append false (by simp) hstays,
            dropSilent_concat false rest hdir]
          have hroot : joined ([""] ++ (rest ++ [dir])) = _ := joined_append (by simp) (by simp)
          exact congrArg some hroot.symm
    · rw [parent?_of_relative (Bool.eq_false_iff.mpr habsolute) hsegments h.isLast,
        dropSilent_append true (by simp) hstays, dropSilent_concat true up hdir]
  · rw [Bool.eq_iff_iff, isAbsolute_iff, isAbsolute_iff, hparent, hsegments]
    cases up with
    | nil => simp [hdir.empty]
    | cons first rest =>
        refine and_congr_right fun _ => ?_
        simp only [List.length_append, List.length_cons, List.length_nil]
        omega

theorem Spells.directory (h : path.Spells (dirs ++ [dir]) name) :
    path.parent? = some path.directory ∧ path.directory.Spells dirs dir
      ∧ path.directory.isAbsolute = path.isAbsolute := by
  obtain ⟨parent, hparent, hspells, habsolute⟩ := h.parent?
  have hdirectory : path.directory = parent := by
    rw [Path.directory, hparent]
    exact if_neg hspells.text_ne
  exact hdirectory ▸ ⟨hparent, hspells, habsolute⟩

/-- A single name stands in the directory that the path starts from. -/
theorem Spells.directory_of_nil (h : path.Spells [] name) :
    path.directory = if path.isAbsolute then ⟨"/"⟩ else ⟨"."⟩ := by
  obtain ⟨init, hsegments, hfilter⟩ := h.segments
  have hstays : ∀ segment ∈ init, staysPut segment = true := by
    simpa [List.filter_eq_nil_iff] using hfilter
  by_cases habsolute : path.isAbsolute = true
  · have hrest : ∀ segment ∈ init.drop 1, staysPut segment = true := fun segment hsegment =>
      hstays segment (List.mem_of_mem_drop hsegment)
    have hnothing : dropSilent false (init.drop 1) = [] := by
      have hdropped : (init.drop 1).reverse.dropWhile (fun s => (innerComponent s).isNone) = [] :=
        List.dropWhile_eq_nil_iff.mpr fun segment hsegment => by
          rw [innerComponent_of_staysPut (hrest segment (List.mem_reverse.mp hsegment))]
          rfl
      simp only [dropSilent, Bool.false_eq_true, if_false, hdropped, List.reverse_nil, if_true,
        List.filter_nil]
    rw [Path.directory, parent?_of_absolute habsolute hsegments h.isLast, hnothing,
      if_pos habsolute]
    rfl
  · rw [Path.directory, parent?_of_relative (Bool.eq_false_iff.mpr habsolute) hsegments h.isLast,
      if_neg habsolute]
    cases init with
    | nil => rfl
    | cons first rest =>
        obtain ⟨hfirst, hrest⟩ := List.forall_mem_cons.mp hstays
        have hfront : dropSilent true (first :: rest) = dropSilent true [first] :=
          dropSilent_append true (List.cons_ne_nil first []) hrest
        obtain rfl | rfl : first = "" ∨ first = "." := by simpa [staysPut] using hfirst
        · rw [hfront]; rfl
        · rw [hfront]; rfl

/-! ## The plain spelling -/

/-- Where the path starts, as a path. -/
def origin (path : Path) : Path := if path.isAbsolute then ⟨"/"⟩ else ⟨""⟩

theorem isAbsolute_origin (path : Path) : path.origin.isAbsolute = path.isAbsolute := by
  cases h : path.isAbsolute <;> simp [origin, h] <;> rfl

theorem stem_origin (path : Path) : ∀ segment ∈ path.origin.stem, staysPut segment = true := by
  cases h : path.isAbsolute <;> simp only [origin, h] <;> decide

/-- The names alone, joined below the origin, spell what they are. -/
theorem spells_below_origin (path : Path) (hdirs : ∀ dir ∈ dirs, IsName dir) (hname : IsName name) :
    (path.origin.below (dirs ++ [name])).Spells dirs name := by
  refine ⟨hdirs, hname, path.origin.stem ++ dirs, ?_, ?_⟩
  · rw [segments_below _ (isName_concat hdirs hname) (by simp), List.append_assoc]
  · have hstem : path.origin.stem.filter (fun segment => !staysPut segment) = [] :=
      List.filter_eq_nil_iff.mpr fun segment hsegment => by simp [path.stem_origin segment hsegment]
    have hkept : dirs.filter (fun segment => !staysPut segment) = dirs :=
      List.filter_eq_self.mpr fun dir hdir => by
        simp [staysPut, (hdirs dir hdir).empty, (hdirs dir hdir).current]
    rw [List.filter_append, hstem, hkept, List.nil_append]

end Path

namespace FileTree

variable {current : List String} {path : Path} {tree : FileTree}

theorem opens_origin (h : tree.node? (start current path) = some .directory) :
    Opens current tree path.origin (start current path) where
  leads := by
    cases habsolute : path.isAbsolute with
    | false => exact .inl ⟨by simp [Path.origin, habsolute], by simp [start, habsolute]⟩
    | true =>
        rw [start, habsolute, if_pos rfl] at h ⊢
        refine .inr ?_
        rw [Path.origin, habsolute, if_pos rfl]
        exact (walkFrom_cons_of_steps h (.inl rfl)).trans (walkFrom_cons_of_steps h (.inl rfl))
  directory := h

end FileTree

end ModuleContainers.Files
