import ModuleContainers.Files.Access
import ModuleContainers.Proofs.Files.Walk
import ModuleContainers.Proofs.Outcome

/-!
# What writing does

Making directories adds directories on the way of the path and does nothing else
(`grown_makeDirectories`). Writing a file does that too, whether or not it succeeds,
and when it succeeds the file stands where its path leads (`Writing`). That is all
that it does (`writing_of_writeAtomic`): the new file that the contents go into first
leaves no trace, however new files are named.

The steps of writing are read off once, as what they make of a tree
(`writeAtomic_eq`): a directory is provided, and then a new file in it is exchanged
for the target. The new file is found again under its name, by a path that is joined
to the directory (`fileAt_new`), so it can be filled, moved and removed.

What is provided and exchanged depends on paths by their walks alone
(`provide_of_makeDirectories`, `exchange_of_walk`). Below a directory that the path
opens, writing succeeds if no directory that it needs is taken by a file and its own
place is not taken by a directory (`writeAtomic_below`). A file that already has the
contents is written without any change (`writeAtomic_again`).
-/

namespace ModuleContainers.Files.FileTree

open Files.Path (IsName)
open Outcome (run_bind_of_error run_bind_of_ok run_tryCatch_of_error run_tryCatch_of_ok)

variable {current : List String} {naming : Naming} {root path directory : Path}
  {tree between after : FileTree} {place base dirs names : List String} {name text : String}
  {entries : List (String × FileTree)} {contents : ByteArray}

/-! ## More directories -/

/-- Nothing changes except that directories come to stand at places of the given kind
where nothing was. -/
def Grown (ways : List String → Prop) (before after : FileTree) : Prop :=
  ∀ place, after.node? place = before.node? place
    ∨ ways place ∧ before.node? place = none ∧ after.node? place = some .directory

namespace Grown

variable {ways ways' : List String → Prop}

theorem refl (ways : List String → Prop) (tree : FileTree) : Grown ways tree tree :=
  fun _ => .inl rfl

theorem mono (hways : ∀ place, ways place → ways' place) (h : Grown ways tree after) :
    Grown ways' tree after :=
  fun place => (h place).imp_right (And.imp_left (hways place))

theorem trans (h : Grown ways tree between) (h' : Grown ways between after) :
    Grown ways tree after := by
  intro place
  rcases h' place with hsame | ⟨hway, hnone, hdirectory⟩
  · rw [hsame]
    exact h place
  · rcases h place with hsame | ⟨-, -, hsome⟩
    · exact .inr ⟨hway, hsame ▸ hnone, hdirectory⟩
    · simp [hnone] at hsome

end Grown

/-! ## Making directories -/

/-- A directory that is made was not there, and it is all that changes. -/
theorem node?_makeDirectory (h : tree.makeDirectory current path = .made after) :
    tree.node? (path.target current) = none
      ∧ ∀ place, after.node? place
        = if place = path.target current then some .directory else tree.node? place := by
  rw [makeDirectory] at h
  split at h
  · next dir name hwalk =>
      obtain ⟨htarget, hdir, hnone⟩ := walk_vacant hwalk
      obtain rfl := Making.made.inj h
      rw [htarget]
      exact ⟨hnone, node?_put_new hdir isLeaf_empty hnone⟩
  · split at h <;> cases h
  · cases h
  · cases h

theorem grown_makeDirectory (h : tree.makeDirectory current path = .made after) :
    Grown (path.Passes current) tree after := by
  obtain ⟨hnone, hafter⟩ := node?_makeDirectory h
  intro place
  rw [hafter place]
  by_cases hplace : place = path.target current
  · subst hplace
    exact .inr ⟨path.passes_target current, hnone, if_pos rfl⟩
  · exact .inl (if_neg hplace)

/-- Only what the path passes is made, whatever comes of the attempt. By induction on the steps:
the parents of a path are passed by it. -/
theorem grown_makeDirectories (current : List String) (steps : Nat) (tree : FileTree)
    (path : Path) :
    Grown (path.Passes current) tree (tree.makeDirectories current steps path).1 := by
  induction steps generalizing path with
  | zero => exact .refl _ _
  | succ steps ih =>
      rw [makeDirectories]
      split
      · exact .refl _ _
      · next hway =>
          obtain ⟨parent, hparent⟩ := Option.ne_none_iff_exists'.mp (not_or.mp hway).2
          have hup : Grown (path.Passes current) tree
              (tree.makeDirectories current steps parent).1 :=
            (ih parent).mono fun _ => Path.Passes.of_parent hparent
          rw [hparent, Option.getD_some]
          split
          · next hmade => exact grown_makeDirectory hmade
          · exact .refl _ _
          · exact .refl _ _
          · split
            · next hrest => exact hrest ▸ hup
            · next grown hrest =>
                rw [hrest] at hup
                split
                · next hmade => exact hup.trans (grown_makeDirectory hmade)
                · exact hup
                · exact hup
                · exact hup

/-! ## The steps of writing -/

/-- What writing makes of the tree, with its result. -/
def writeAtomic (current : List String) (naming : Naming) (tree : FileTree) (path : Path)
    (text : String) : FileTree × Except WriteError Unit :=
  (((fileSystem current naming).writeAtomic path text).run tree).swap

/-- Has the directory of a new file there, if it can be had. -/
def provide (current : List String) (tree : FileTree) (directory : Path) :
    FileTree × Except Fault Unit :=
  if tree.leads current directory then (tree, .ok ())
  else tree.makeDirectories current (directory.text.length + 1) directory

/-- The tree without a file, if it can be removed. -/
def without (current : List String) (tree : FileTree) (path : Path) : FileTree :=
  match tree.removeFile current path with
  | .error _ => tree
  | .ok after => after

/-- Puts the contents into a new file of the directory and the new file in the place of
the target. -/
def exchange (current : List String) (naming : Naming) (tree : FileTree) (directory path : Path)
    (contents : ByteArray) : FileTree × Except WriteError Unit :=
  match tree.createIn current naming directory with
  | .error cause => (tree, .error ⟨directory, cause⟩)
  | .ok (fresh, held) =>
      match held.fill current fresh contents with
      | .error cause => (held.without current fresh, .error ⟨fresh, cause⟩)
      | .ok filled =>
          match filled.rename current fresh path with
          | .error cause => (filled.without current fresh, .error ⟨path, cause⟩)
          | .ok after => (after, .ok ())

/-- A fault is cited with the path, and the state is kept either way. -/
theorem run_blaming {σ α : Type} {step : StateM σ (Except Fault α)} {result : Except Fault α}
    {before after : σ} (h : step.run before = (result, after)) (path : Path) :
    (FileSystem.blaming path step).run.run before
      = (result.mapError fun cause => ⟨path, cause⟩, after) := by
  rw [FileSystem.blaming, ExceptT.run_mk, StateT.run_bind, h]
  rfl

theorem run_change_of_ok {step : FileTree → Except Fault FileTree} (h : step tree = .ok after) :
    (change step).run tree = (.ok (), after) := by
  rw [change, StateT.run_bind, StateT.run_get, pure_bind, h]
  rfl

theorem run_change_of_error {step : FileTree → Except Fault FileTree} {cause : Fault}
    (h : step tree = .error cause) : (change step).run tree = (.error cause, tree) := by
  rw [change, StateT.run_bind, StateT.run_get, pure_bind, h]
  rfl

theorem run_createIn_of_ok {fresh : Path}
    (h : tree.createIn current naming directory = .ok (fresh, after)) :
    ((fileSystem current naming).createIn directory).run tree = (.ok fresh, after) := by
  simp only [fileSystem, StateT.run_bind, StateT.run_get, pure_bind, h]
  rfl

theorem run_createIn_of_error {cause : Fault}
    (h : tree.createIn current naming directory = .error cause) :
    ((fileSystem current naming).createIn directory).run tree = (.error cause, tree) := by
  simp only [fileSystem, StateT.run_bind, StateT.run_get, pure_bind, h]
  rfl

theorem run_remove (current : List String) (naming : Naming) (tree : FileTree) (path : Path) :
    ∃ result, ((fileSystem current naming).remove path).run tree
      = (result, tree.without current path) := by
  rw [without]
  cases hremove : tree.removeFile current path with
  | error cause => exact ⟨_, run_change_of_error hremove⟩
  | ok after => exact ⟨_, run_change_of_ok hremove⟩

/-- The steps on the tree are the steps of `provide`, which keeps the tree it has come to when
it fails. -/
theorem run_provide (current : List String) (naming : Naming) (tree : FileTree)
    (directory : Path) :
    (FileSystem.provide (fileSystem current naming) directory).run.run tree
      = ((tree.provide current directory).2.mapError fun cause => ⟨directory, cause⟩,
        (tree.provide current directory).1) := by
  have hleads : (ExceptT.lift (ε := WriteError)
      ((fileSystem current naming).leads directory)).run.run tree
        = (.ok (tree.leads current directory), tree) := rfl
  rw [FileSystem.provide, run_bind_of_ok hleads, provide]
  cases tree.leads current directory with
  | true => rfl
  | false => exact run_blaming rfl directory

/-- The new file does not stay when what is done with it fails. -/
theorem run_withNewFile_of_error {use : Path → ExceptT WriteError (StateM FileTree) Unit}
    {fresh : Path} {held left : FileTree} {error : WriteError}
    (hcreate : tree.createIn current naming directory = .ok (fresh, held))
    (huse : (use fresh).run.run held = (.error error, left)) :
    (FileSystem.withNewFile (fileSystem current naming) directory use).run.run tree
      = (.error error, left.without current fresh) := by
  obtain ⟨result, hremove⟩ := run_remove current naming left fresh
  have hlifted : (ExceptT.lift (ε := WriteError)
      ((fileSystem current naming).remove fresh)).run.run left
        = (.ok result, left.without current fresh) := by
    rw [ExceptT.run_lift, StateT.run_map, hremove]
    rfl
  rw [FileSystem.withNewFile, run_bind_of_ok (run_blaming (run_createIn_of_ok hcreate) directory),
    run_tryCatch_of_error huse, run_bind_of_ok hlifted]
  rfl

/-- The steps on the tree are those of `exchange`: the new file is filled and moved, and it is
removed again where that fails. -/
theorem run_exchange (current : List String) (naming : Naming) (tree : FileTree)
    (directory path : Path) (text : String) :
    (FileSystem.withNewFile (fileSystem current naming) directory fun fresh => do
        FileSystem.blaming fresh ((fileSystem current naming).fill fresh text)
        FileSystem.blaming path ((fileSystem current naming).rename fresh path)).run.run tree
      = (tree.exchange current naming directory path text.toUTF8).swap := by
  rw [exchange]
  cases hcreate : tree.createIn current naming directory with
  | error cause =>
      rw [FileSystem.withNewFile,
        run_bind_of_error (run_blaming (run_createIn_of_error hcreate) directory)]
      rfl
  | ok created =>
      obtain ⟨fresh, held⟩ := created
      cases hfill : held.fill current fresh text.toUTF8 with
      | error cause =>
          have hrun : ((fileSystem current naming).fill fresh text).run held
              = (.error cause, held) := run_change_of_error hfill
          simp only [hfill]
          exact run_withNewFile_of_error hcreate (run_bind_of_error (run_blaming hrun fresh))
      | ok filled =>
          have hrun : ((fileSystem current naming).fill fresh text).run held
              = (.ok (), filled) := run_change_of_ok hfill
          have hfirst := run_blaming hrun fresh
          cases hrename : filled.rename current fresh path with
          | error cause =>
              have hrun : ((fileSystem current naming).rename fresh path).run filled
                  = (.error cause, filled) := run_change_of_error hrename
              simp only [hfill, hrename]
              exact run_withNewFile_of_error hcreate
                ((run_bind_of_ok hfirst).trans (run_blaming hrun path))
          | ok after =>
              have hrun : ((fileSystem current naming).rename fresh path).run filled
                  = (.ok (), after) := run_change_of_ok hrename
              simp only [hfill, hrename]
              rw [FileSystem.withNewFile,
                run_bind_of_ok (run_blaming (run_createIn_of_ok hcreate) directory)]
              exact run_tryCatch_of_ok ((run_bind_of_ok hfirst).trans (run_blaming hrun path))

/-- The write as two steps on the tree: the directory of the target is provided, and the file is
exchanged there. -/
theorem writeAtomic_eq (current : List String) (naming : Naming) (tree : FileTree) (path : Path)
    (text : String) :
    tree.writeAtomic current naming path text
      = match tree.provide current path.directory with
        | (tree, .error cause) => (tree, .error ⟨path.directory, cause⟩)
        | (tree, .ok ()) => tree.exchange current naming path.directory path text.toUTF8 := by
  have hprovide := run_provide current naming tree path.directory
  rw [writeAtomic, FileSystem.writeAtomic]
  rcases hgrown : tree.provide current path.directory with ⟨grown, cause | ⟨⟩⟩
  · rw [hgrown] at hprovide
    rw [run_bind_of_error hprovide]
    rfl
  · rw [hgrown] at hprovide
    rw [run_bind_of_ok hprovide, run_exchange, Prod.swap_swap]

theorem grown_provide (current : List String) (tree : FileTree) (directory : Path) :
    Grown (directory.Passes current) tree (tree.provide current directory).1 := by
  rw [provide]
  split
  · exact .refl _ _
  · exact grown_makeDirectories _ _ _ _

/-! ## The new file -/

/-- A fresh name is no entry of the directory. -/
theorem lookup_fresh (naming : Naming) (entries : List (String × FileTree)) :
    entries.lookup (naming.fresh (entries.map Prod.fst)) = none := by
  rw [List.lookup_eq_none_iff]
  intro entry hentry
  have hused : entry.1 ∈ entries.map Prod.fst := List.mem_map_of_mem hentry
  rw [bne_iff_ne]
  exact fun h => naming.fresh_not_mem _ (h ▸ hused)

/-- The path that is joined to the directory leads to the new file. -/
theorem fileAt_new (hopened : tree.walk current directory = .ok (.found place))
    (hget : tree.get? place = some (.directory entries)) (hname : IsName name)
    (hnew : entries.lookup name = none) (contents : ByteArray) :
    (tree.put (place ++ [name]) (.file contents)).fileAt current (directory.join ⟨name⟩)
      = .ok (place ++ [name], contents) := by
  obtain ⟨hnone, hheld, -⟩ := put_new hget hnew contents
  generalize tree.put (place ++ [name]) (.file contents) = held at hheld ⊢
  have hopens : Opens current tree directory place :=
    ⟨.inr hopened, node?_eq_directory.mpr ⟨entries, hget⟩⟩
  have hopens' : Opens current held directory place := by
    refine hopens.mono fun other hother => ?_
    rw [hheld, if_neg ?_, hother]
    rintro rfl
    simp [hnone] at hother
  have hfile : held.node? (place ++ [name]) = some (.file contents) := by rw [hheld, if_pos rfl]
  have hjoin : directory.join ⟨name⟩ = directory.below [name] := by simp [Path.below, Path.joined]
  have hnames : ∀ other ∈ [name], IsName other := List.forall_mem_singleton.mpr hname
  rw [fileAt, hjoin, hopens'.walk_below hnames (by simp), walkFrom_names hnames (by simp [hfile])]
  simp only [node?_eq_file.mp hfile]

/-- A new file is made in a directory only. -/
theorem createIn_cases (current : List String) (naming : Naming) (tree : FileTree)
    (directory : Path) :
    (∃ cause, tree.createIn current naming directory = .error cause)
      ∨ ∃ place entries, tree.walk current directory = .ok (.found place)
        ∧ tree.get? place = some (.directory entries) := by
  rw [createIn]
  split
  · exact .inl ⟨_, rfl⟩
  · exact .inl ⟨_, rfl⟩
  · next place hwalk =>
      split
      · exact .inl ⟨_, rfl⟩
      · exact .inl ⟨_, rfl⟩
      · next entries hget => exact .inr ⟨place, entries, hwalk, hget⟩

/-- Of the new file nothing is left when it is not moved. -/
theorem exchange_of_directory (hopened : tree.walk current directory = .ok (.found place))
    (hget : tree.get? place = some (.directory entries)) (naming : Naming) (path : Path)
    (contents : ByteArray) :
    tree.exchange current naming directory path contents
      = match (tree.put (place ++ [naming.fresh (entries.map Prod.fst)]) (.file contents)).moveFile
            current (place ++ [naming.fresh (entries.map Prod.fst)]) contents path with
        | .error cause => (tree, .error ⟨path, cause⟩)
        | .ok after => (after, .ok ()) := by
  have hnew := lookup_fresh naming entries
  have hfile := fileAt_new hopened hget (naming.isName _) hnew
  obtain ⟨-, -, hremoved⟩ := put_new hget hnew contents
  have hcreate : tree.createIn current naming directory
      = .ok (directory.join ⟨naming.fresh (entries.map Prod.fst)⟩,
        tree.put (place ++ [naming.fresh (entries.map Prod.fst)]) (.file .empty)) := by
    simp only [createIn, hopened, hget]
  generalize naming.fresh (entries.map Prod.fst) = name at hfile hremoved hcreate ⊢
  have hfill : (tree.put (place ++ [name]) (.file .empty)).fill current (directory.join ⟨name⟩)
      contents = .ok (tree.put (place ++ [name]) (.file contents)) := by
    rw [fill, hfile, Outcome.bind_eq_ok]
    exact ⟨_, rfl, congrArg Except.ok (put_put ..)⟩
  have hrename : (tree.put (place ++ [name]) (.file contents)).rename current
        (directory.join ⟨name⟩) path
      = (tree.put (place ++ [name]) (.file contents)).moveFile current (place ++ [name]) contents
        path := by
    rw [rename, hfile]
    rfl
  have hwithout : (tree.put (place ++ [name]) (.file contents)).without current
      (directory.join ⟨name⟩) = tree := by
    rw [without, removeFile, hfile]
    exact hremoved
  rw [exchange, hcreate]
  simp only [hfill, hrename, hwithout]

/-- A file is moved to its target, unless a directory stands there; otherwise nothing is
moved. -/
theorem moveFile_cases (current : List String) (tree : FileTree) (source : List String)
    (contents : ByteArray) (path : Path) :
    tree.node? (path.target current) ≠ some .directory
        ∧ tree.moveFile current source contents path
          = .ok ((tree.remove source).put (path.target current) (.file contents))
      ∨ ∃ cause, tree.moveFile current source contents path = .error cause := by
  rw [moveFile]
  split
  · exact .inr ⟨_, rfl⟩
  · next dir name hwalk =>
      obtain ⟨htarget, -, hnone⟩ := walk_vacant hwalk
      exact .inl ⟨by simp [htarget, hnone], by rw [htarget]⟩
  · next found hwalk =>
      obtain rfl := walk_found hwalk
      split
      · exact .inr ⟨_, rfl⟩
      · exact .inr ⟨_, rfl⟩
      · next old hold => exact .inl ⟨by simp [node?_eq_file.mpr hold], rfl⟩

/-- The exchange replaces nothing but a file, and nothing changes when it fails. -/
theorem exchange_cases (current : List String) (naming : Naming) (tree : FileTree)
    (directory path : Path) (contents : ByteArray) :
    (∃ error, tree.exchange current naming directory path contents = (tree, .error error))
      ∨ tree.node? (directory.target current) = some .directory
        ∧ tree.node? (path.target current) ≠ some .directory
        ∧ tree.exchange current naming directory path contents
          = (tree.put (path.target current) (.file contents), .ok ()) := by
  rcases createIn_cases current naming tree directory with
    ⟨cause, hcreate⟩ | ⟨place, entries, hopened, hget⟩
  · exact .inl ⟨_, by rw [exchange, hcreate]⟩
  · obtain rfl := walk_found hopened
    have hnew := lookup_fresh naming entries
    obtain ⟨hnone, hheld, hremoved⟩ := put_new hget hnew contents
    rw [exchange_of_directory hopened hget]
    generalize naming.fresh (entries.map Prod.fst) = name at hnone hheld hremoved ⊢
    rcases moveFile_cases current (tree.put (directory.target current ++ [name]) (.file contents))
        (directory.target current ++ [name]) contents path with ⟨hold, hmoved⟩ | ⟨cause, hmoved⟩
    · refine .inr ⟨node?_eq_directory.mpr ⟨entries, hget⟩, fun hdirectory => hold ?_, ?_⟩
      · rw [hheld, if_neg ?_, hdirectory]
        intro hsource
        simp [hsource, hnone] at hdirectory
      · simp only [hmoved, hremoved]
    · exact .inl ⟨⟨path, cause⟩, by simp only [hmoved]⟩

/-! ## What comes of it -/

/-- What comes of writing. Directories may come to stand on the way to the target,
whether or not the file can be written; if it can, it stands at the target, and no
directory was there. -/
inductive Writing (current : List String) (path : Path) (contents : ByteArray)
    (before : FileTree) : Except WriteError Unit → FileTree → Prop where
  | refused {grown : FileTree} (error : WriteError)
      (hgrown : Grown (path.directory.Passes current) before grown) :
      Writing current path contents before (.error error) grown
  | written {grown after : FileTree}
      (hgrown : Grown (path.directory.Passes current) before grown)
      (hold : grown.node? (path.target current) ≠ some .directory)
      (hafter : ∀ place, after.node? place
        = if place = path.target current then some (.file contents) else grown.node? place) :
      Writing current path contents before (.ok ()) after

/-- The write leaves directories on the way in any case, and the file at its target if it
succeeds. What it makes besides is gone when it ends. -/
theorem writing_of_writeAtomic {result : Except WriteError Unit}
    (htarget : path.target current = path.directory.target current ++ [name])
    (h : tree.writeAtomic current naming path text = (after, result)) :
    Writing current path text.toUTF8 tree result after := by
  have hgrown := grown_provide current tree path.directory
  rw [writeAtomic_eq] at h
  split at h
  · next grown hprovide =>
      obtain ⟨rfl, rfl⟩ := Prod.mk.inj h
      rw [hprovide] at hgrown
      exact .refused _ hgrown
  · next grown hprovide =>
      rw [hprovide] at hgrown
      rcases exchange_cases current naming grown path.directory path text.toUTF8 with
        ⟨error, hexchange⟩ | ⟨hdir, hold, hexchange⟩
      · rw [hexchange] at h
        obtain ⟨rfl, rfl⟩ := Prod.mk.inj h
        exact .refused _ hgrown
      · rw [hexchange] at h
        obtain ⟨rfl, rfl⟩ := Prod.mk.inj h
        refine .written hgrown hold ?_
        rw [htarget] at hold ⊢
        exact node?_put_leaf hdir (isLeaf_file _) hold

namespace Writing

theorem target (h : Writing current path contents tree (.ok ()) after) :
    after.node? (path.target current) = some (.file contents) := by
  obtain _ | ⟨-, -, hafter⟩ := h
  rw [hafter, if_pos rfl]

/-- Besides the file, only directories come to stand on the way to it. -/
theorem changed (h : Writing current path contents tree (.ok ()) after)
    (hchanged : after.node? place ≠ tree.node? place) :
    place = path.target current
      ∨ tree.node? place = none ∧ after.node? place = some .directory
        ∧ path.directory.Passes current place := by
  obtain _ | ⟨hgrown, -, hafter⟩ := h
  by_cases hplace : place = path.target current
  · exact .inl hplace
  · rw [hafter, if_neg hplace] at hchanged ⊢
    obtain ⟨hpasses, hnone, hdirectory⟩ := (hgrown place).resolve_left hchanged
    exact .inr ⟨hnone, hdirectory, hpasses⟩

/-- Nothing that stood somewhere is gone. -/
theorem missing (h : Writing current path contents tree (.ok ()) after)
    (hnone : after.node? place = none) : tree.node? place = none := by
  by_contra hsome
  have hchanged : after.node? place ≠ tree.node? place := fun hsame => hsome (hsame ▸ hnone)
  rcases h.changed hchanged with rfl | ⟨hbefore, -, -⟩
  · rw [h.target] at hnone
    cases hnone
  · exact hsome hbefore

end Writing

/-! ## Down names that may be missing -/

/-- No file stands where a directory is needed. -/
def Clear (tree : FileTree) (base dirs : List String) : Prop :=
  ∀ up, up <+: dirs → ∀ contents, tree.node? (base ++ up) ≠ some (.file contents)

theorem Clear.of_prefix (h : Clear tree base names) (hdirs : dirs <+: names) :
    Clear tree base dirs :=
  fun up hup => h up (hup.trans hdirs)

/-- Where nothing stands at the end, there is a first name that is missing. -/
theorem exists_missing (hbase : tree.node? base = some .directory)
    (hclear : Clear tree base names) (hnone : tree.node? (base ++ names) = none) :
    ∃ init name rest, names = init ++ name :: rest ∧ tree.node? (base ++ init) = some .directory
      ∧ tree.node? (base ++ init ++ [name]) = none := by
  induction names generalizing base with
  | nil => simp [hbase] at hnone
  | cons first rest ih =>
      rcases hnode : tree.node? (base ++ [first]) with _ | ⟨_ | contents⟩
      · exact ⟨[], first, rest, rfl, by rwa [List.append_nil], by rwa [List.append_nil]⟩
      · have hrest : Clear tree (base ++ [first]) rest := by
          intro up hup
          rw [← List.append_cons]
          exact hclear _ (List.cons_prefix_cons.mpr ⟨rfl, hup⟩)
        obtain ⟨init, name, more, rfl, hinit, hmissing⟩ :=
          ih hnode hrest (by rwa [← List.append_cons])
        exact ⟨first :: init, name, more, rfl, by rwa [List.append_cons],
          by rwa [List.append_cons base]⟩
      · exact absurd hnode (hclear [first] (by simp) contents)

/-- Directories stand all along the names, and nothing else has changed. -/
structure Paved (base dirs : List String) (before after : FileTree) : Prop where
  directory : ∀ up, up <+: dirs → after.node? (base ++ up) = some .directory
  other : ∀ place, (∀ up, up <+: dirs → place ≠ base ++ up) →
    after.node? place = before.node? place

theorem Paved.refl (h : tree.node? (base ++ dirs) = some .directory) :
    Paved base dirs tree tree where
  directory _ hup := directory_above h ((List.prefix_append_right_inj base).mpr hup)
  other _ _ := rfl

/-- One more directory on the way. -/
theorem Paved.concat (h : Paved base dirs tree between)
    (hafter : ∀ place, after.node? place
      = if place = base ++ dirs ++ [name] then some .directory else between.node? place) :
    Paved base (dirs ++ [name]) tree after where
  directory up hup := by
    rw [hafter]
    split
    · rfl
    · next hne =>
        rcases List.prefix_concat_iff.mp hup with rfl | hup
        · exact absurd (List.append_assoc ..).symm hne
        · exact h.directory up hup
  other place hplace := by
    have hend := hplace _ (List.prefix_refl _)
    rw [← List.append_assoc] at hend
    rw [hafter, if_neg hend]
    exact h.other place fun up hup => hplace up (hup.trans (List.prefix_append ..))

/-- What stands in the last directory is as before. -/
theorem Paved.beyond (h : Paved base dirs tree after) (name : String) :
    after.node? (base ++ dirs ++ [name]) = tree.node? (base ++ dirs ++ [name]) := by
  refine h.other _ fun up hlead heq => ?_
  rw [List.append_assoc] at heq
  obtain rfl := List.append_cancel_left heq
  exact absurd hlead.length_le (by simp)

/-- Directories are only added, where no file stood in the way. -/
theorem Paved.kept (h : Paved base dirs tree after) (hclear : Clear tree base dirs)
    {node : Node} (hnode : tree.node? place = some node) : after.node? place = some node := by
  by_cases hplace : ∃ up, up <+: dirs ∧ place = base ++ up
  · obtain ⟨up, hup, rfl⟩ := hplace
    cases node with
    | directory => exact h.directory up hup
    | file contents => exact absurd hnode (hclear up hup contents)
  · push Not at hplace
    rw [h.other place hplace, hnode]

/-! ## Writing where a path is walked down names -/

/-- A directory is provided if it can be made. -/
theorem provide_of_makeDirectories (hwalk : tree.walk current path = tree.walkFrom base dirs)
    (hbase : tree.node? base = some .directory) (hdirs : ∀ name ∈ dirs, IsName name)
    (hclear : Clear tree base dirs)
    (hmakes : ∃ grown, tree.makeDirectories current (path.text.length + 1) path = (grown, .ok ())
      ∧ Paved base dirs tree grown) :
    ∃ grown, tree.provide current path = (grown, .ok ()) ∧ Paved base dirs tree grown := by
  rcases hnode : tree.node? (base ++ dirs) with _ | ⟨_ | contents⟩
  · obtain ⟨init, name, rest, rfl, hdir, hmissing⟩ := exists_missing hbase hclear hnode
    have hover : ∀ other ∈ init, IsName other := fun other ho => hdirs other (by simp [ho])
    have hleads : tree.leads current path = false := by
      rw [leads, hwalk, walkFrom_missing hover (hdirs name (by simp)) hdir hmissing rest]
      by_cases hlast : rest = [] <;> simp [hlast]
    rw [provide, hleads]
    exact hmakes
  · have hleads : tree.leads current path = true := by
      rw [leads, hwalk, walkFrom_names hdirs (by simp [hnode])]
    exact ⟨tree, by rw [provide, if_pos hleads], .refl hnode⟩
  · exact absurd hnode (hclear _ (List.prefix_refl _) contents)

/-- A move succeeds where the way to the target is known. -/
theorem moveFile_of_walk (hwalk : tree.walk current path = tree.walkFrom base (dirs ++ [name]))
    (hdirs : ∀ name ∈ dirs, IsName name) (hname : IsName name)
    (hdir : tree.node? (base ++ dirs) = some .directory)
    (hold : tree.node? (base ++ dirs ++ [name]) ≠ some .directory) (source : List String)
    (contents : ByteArray) :
    tree.moveFile current source contents path
      = .ok ((tree.remove source).put (base ++ dirs ++ [name]) (.file contents)) := by
  rw [moveFile, hwalk]
  rcases hnode : tree.node? (base ++ dirs ++ [name]) with _ | ⟨_ | old⟩
  · rw [walkFrom_missing hdirs hname hdir hnode []]
    simp
  · exact absurd hnode hold
  · have hthere : tree.node? (base ++ (dirs ++ [name])) ≠ none := by
      rw [← List.append_assoc, hnode]
      simp
    rw [walkFrom_names (Path.isName_concat hdirs hname) hthere, ← List.append_assoc]
    simp only [node?_eq_file.mp hnode]

/-- The new file beside the target is in nobody's way. -/
theorem exchange_of_walk (hopened : tree.walk current directory = .ok (.found (base ++ dirs)))
    (hwalk : ∀ held : FileTree,
      (∀ place, tree.node? place = some .directory → held.node? place = some .directory) →
      held.walk current path = held.walkFrom base (dirs ++ [name]))
    (hdirs : ∀ name ∈ dirs, IsName name) (hname : IsName name)
    (hdir : tree.node? (base ++ dirs) = some .directory)
    (hold : tree.node? (base ++ dirs ++ [name]) ≠ some .directory) (naming : Naming)
    (contents : ByteArray) :
    tree.exchange current naming directory path contents
      = (tree.put (base ++ dirs ++ [name]) (.file contents), .ok ()) := by
  obtain ⟨entries, hget⟩ := node?_eq_directory.mp hdir
  obtain ⟨hnone, hheld, hremoved⟩ := put_new hget (lookup_fresh naming entries) contents
  rw [exchange_of_directory hopened hget]
  generalize naming.fresh (entries.map Prod.fst) = fresh at hnone hheld hremoved ⊢
  generalize tree.put (base ++ dirs ++ [fresh]) (.file contents) = held at hheld hremoved ⊢
  have hkept : ∀ place, tree.node? place = some .directory →
      held.node? place = some .directory := by
    intro place hplace
    rw [hheld, if_neg ?_, hplace]
    rintro rfl
    rw [hnone] at hplace
    cases hplace
  have hold' : held.node? (base ++ dirs ++ [name]) ≠ some .directory := by
    rw [hheld]
    split
    · simp
    · exact hold
  simp only [moveFile_of_walk (hwalk held hkept) hdirs hname (hkept _ hdir) hold', hremoved]

/-! ## Writing below a directory -/

section Below

variable (hopens : Opens current tree root base) (hdirs : ∀ name ∈ dirs, IsName name)
include hopens hdirs

theorem makeDirectory_already (hne : dirs ≠ [])
    (h : tree.node? (base ++ dirs) = some .directory) :
    tree.makeDirectory current (root.below dirs) = .already := by
  obtain ⟨entries, hget⟩ := node?_eq_directory.mp h
  rw [makeDirectory, hopens.walk_below hdirs hne, walkFrom_names hdirs (by simp [h])]
  simp [hget]

theorem makeDirectory_made (hname : IsName name)
    (hdir : tree.node? (base ++ dirs) = some .directory)
    (hnone : tree.node? (base ++ dirs ++ [name]) = none) :
    tree.makeDirectory current (root.below (dirs ++ [name]))
      = .made (tree.put (base ++ dirs ++ [name]) empty) := by
  have hall := Path.isName_concat hdirs hname
  rw [makeDirectory, hopens.walk_below hall (by simp),
    walkFrom_missing hdirs hname hdir hnone []]
  rfl

theorem makeDirectory_gap (hname : IsName name) (hclear : Clear tree base dirs)
    (hnone : tree.node? (base ++ dirs) = none) :
    tree.makeDirectory current (root.below (dirs ++ [name])) = .gap := by
  have hall := Path.isName_concat hdirs hname
  obtain ⟨init, next, rest, rfl, hinit, hmissing⟩ :=
    exists_missing hopens.directory hclear hnone
  have hwalk := walkFrom_missing (fun other ho => hdirs other (by simp [ho]))
    (hdirs next (by simp)) hinit hmissing (rest ++ [name])
  rw [makeDirectory, hopens.walk_below hall (by simp), List.append_assoc, List.cons_append, hwalk]
  simp

/-- As many steps as there are names are enough. -/
theorem makeDirectories_below (hclear : Clear tree base dirs) (hne : dirs ≠ []) {steps : Nat}
    (hsteps : dirs.length ≤ steps) :
    ∃ grown, tree.makeDirectories current steps (root.below dirs) = (grown, .ok ())
      ∧ Paved base dirs tree grown := by
  induction dirs using List.reverseRecOn generalizing steps with
  | nil => exact absurd rfl hne
  | append_singleton init last ih =>
      have hinit : ∀ name ∈ init, IsName name := fun name hname => hdirs name (by simp [hname])
      have hlast := hdirs last (by simp)
      rw [List.length_append, List.length_singleton] at hsteps
      obtain ⟨steps, rfl⟩ : ∃ n, steps = n + 1 := ⟨steps - 1, by omega⟩
      have hway : ¬ ((root.below (init ++ [last])).text = ""
          ∨ (root.below (init ++ [last])).parent? = none) :=
        not_or.mpr ⟨Path.text_below_ne root hdirs hne, Path.parent?_below_ne_none root hdirs hne⟩
      rw [makeDirectories, if_neg hway]
      -- The directory is there, or the one that it stands in, or neither of them.
      rcases hnode : tree.node? (base ++ (init ++ [last])) with _ | ⟨_ | contents⟩
      · rcases hup : tree.node? (base ++ init) with _ | ⟨_ | contents⟩
        · have hnonempty : init ≠ [] := by
            rintro rfl
            simp [hopens.directory] at hup
          have hclear' := hclear.of_prefix (List.prefix_append init [last])
          have hfewer : init.length ≤ steps := by omega
          obtain ⟨grown, hgrown, hpaved⟩ := ih hinit hclear' hnonempty hfewer
          have hopens' := hopens.mono fun _ => hpaved.kept hclear'
          have hdir := hpaved.directory init (List.prefix_refl _)
          have hnone : grown.node? (base ++ init ++ [last]) = none := by
            rw [hpaved.beyond, List.append_assoc, hnode]
          rw [makeDirectory_gap hopens hinit hlast hclear' hup,
            Path.parent?_below root hinit hnonempty hlast, Option.getD_some]
          simp only [hgrown, makeDirectory_made hopens' hinit hlast hdir hnone]
          exact ⟨_, rfl, hpaved.concat (node?_put_new hdir isLeaf_empty hnone)⟩
        · rw [← List.append_assoc] at hnode
          rw [makeDirectory_made hopens hinit hlast hup hnode]
          exact ⟨_, rfl, (Paved.refl hup).concat (node?_put_new hup isLeaf_empty hnode)⟩
        · exact absurd hup (hclear init (List.prefix_append ..) contents)
      · rw [makeDirectory_already hopens hdirs hne hnode]
        exact ⟨tree, rfl, .refl hnode⟩
      · exact absurd hnode (hclear _ (List.prefix_refl _) contents)

theorem provide_of_directory (hne : dirs ≠ [])
    (h : tree.node? (base ++ dirs) = some .directory) :
    tree.provide current (root.below dirs) = (tree, .ok ()) := by
  have hleads : tree.leads current (root.below dirs) = true := by
    rw [leads, hopens.walk_below hdirs hne, walkFrom_names hdirs (by simp [h])]
  rw [provide, if_pos hleads]

/-- By induction on the names: where a directory is missing, the one above it is provided
first. -/
theorem provide_below (hclear : Clear tree base dirs) (hne : dirs ≠ []) :
    ∃ grown, tree.provide current (root.below dirs) = (grown, .ok ())
      ∧ Paved base dirs tree grown := by
  have hsteps : dirs.length ≤ (root.below dirs).text.length + 1 := by
    have hlength := (root.below dirs).length_segments_le
    rw [Path.segments_below root hdirs hne, List.length_append] at hlength
    omega
  exact provide_of_makeDirectories (hopens.walk_below hdirs hne) hopens.directory hdirs hclear
    (makeDirectories_below hopens hdirs hclear hne hsteps)

/-- In a directory that is there, the file is exchanged if no directory stands in its place. -/
theorem exchange_below (hne : dirs ≠ []) (hname : IsName name)
    (hdir : tree.node? (base ++ dirs) = some .directory)
    (hold : tree.node? (base ++ dirs ++ [name]) ≠ some .directory) (naming : Naming) :
    tree.exchange current naming (root.below dirs) (root.below (dirs ++ [name])) contents
      = (tree.put (base ++ dirs ++ [name]) (.file contents), .ok ()) := by
  have hall := Path.isName_concat hdirs hname
  have hopened : tree.walk current (root.below dirs) = .ok (.found (base ++ dirs)) := by
    rw [hopens.walk_below hdirs hne, walkFrom_names hdirs (by simp [hdir])]
  have hwalk : ∀ held : FileTree,
      (∀ place, tree.node? place = some .directory → held.node? place = some .directory) →
      held.walk current (root.below (dirs ++ [name])) = held.walkFrom base (dirs ++ [name]) :=
    fun held hkept => (hopens.mono hkept).walk_below hall (by simp)
  exact exchange_of_walk hopened hwalk hdirs hname hdir hold naming contents

/-- Writing below a directory succeeds where no file is in the way of a directory and no
directory is in the way of the file. -/
theorem writeAtomic_below (hclear : Clear tree base dirs) (hne : dirs ≠ []) (hname : IsName name)
    (hold : tree.node? (base ++ dirs ++ [name]) ≠ some .directory) (naming : Naming)
    (text : String) :
    ∃ grown after, Paved base dirs tree grown
      ∧ tree.writeAtomic current naming (root.below (dirs ++ [name])) text = (after, .ok ())
      ∧ ∀ place, after.node? place
        = if place = base ++ dirs ++ [name] then some (.file text.toUTF8)
          else grown.node? place := by
  obtain ⟨grown, hgrown, hpaved⟩ := provide_below hopens hdirs hclear hne
  have hdir := hpaved.directory dirs (List.prefix_refl _)
  have hopens' := hopens.mono fun _ => hpaved.kept hclear
  have hold' : grown.node? (base ++ dirs ++ [name]) ≠ some .directory := by
    rwa [hpaved.beyond]
  refine ⟨grown, _, hpaved, ?_, node?_put_leaf hdir (isLeaf_file text.toUTF8) hold'⟩
  rw [writeAtomic_eq, Path.directory_below root hdirs hne hname, hgrown]
  exact exchange_below hopens' hdirs hne hname hdir hold' naming

/-- Writing what is already there changes nothing at all. -/
theorem writeAtomic_again (hne : dirs ≠ []) (hname : IsName name)
    (hfile : tree.node? (base ++ dirs ++ [name]) = some (.file text.toUTF8)) (naming : Naming) :
    tree.writeAtomic current naming (root.below (dirs ++ [name])) text = (tree, .ok ()) := by
  have hdir := directory_of_below (List.cons_ne_nil name []) (by rw [hfile]; simp)
  rw [writeAtomic_eq, Path.directory_below root hdirs hne hname,
    provide_of_directory hopens hdirs hne hdir]
  simp only
  rw [exchange_below hopens hdirs hne hname hdir (by rw [hfile]; simp),
    put_eq_self (node?_eq_file.mp hfile)]

end Below

end ModuleContainers.Files.FileTree
