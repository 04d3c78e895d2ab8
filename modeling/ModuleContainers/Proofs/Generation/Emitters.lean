import ModuleContainers.Proofs.Files.Access
import ModuleContainers.Proofs.Generation.Pass

/-!
# The emitters agree

Where a pass comes through in memory, it comes through everywhere: a directory that
was empty holds just the files of the map afterwards (`Mirrors`), and a dry run shows
just these. The reason is that a path of a class never ends where another one has a
directory: the name of a file has a dot, and the parts of a package have none
(`not_prefix_package`). So a file never stands in the way of the next one, and
writing the same files once more finds each of them in its place.
-/

namespace ModuleContainers

open ModuleContainers.Files (FileSystem FileTree Naming Path WriteError)
open ModuleContainers.Files.FileTree (Clear Opens Paved Writing)
open ModuleContainers.Files.Path (IsName joined)
open ModuleContainers.Metadata (Module)

variable {configuration : Configuration} {modules : List Module} {current base : List String}
  {naming : Naming} {root : Path} {before tree after : FileTree} {file other : GeneratedFile}
  {files done : List GeneratedFile}

/-! ## Places of classes -/

/-- The directories of a class. -/
def packageSegments (package : String) : List String := Text.splitOn '.' package

theorem packageSegments_ne_nil (package : String) : packageSegments package ≠ [] := by
  simp [packageSegments, Text.splitOn, List.splitOn_ne_nil]

/-- No class takes the place of a directory. -/
theorem not_prefix_package (package typeName package' : String) :
    ¬ sourceSegments package typeName <+: packageSegments package' := by
  intro hlead
  obtain ⟨piece, hpiece, hname⟩ :=
    List.mem_map.mp (hlead.subset (List.mem_append_right _ (List.mem_singleton_self _)))
  have hdot : '.' ∈ (String.ofList piece).toList := by
    rw [hname, String.toList_append]
    simp
  rw [String.toList_ofList] at hdot
  exact Text.not_mem_of_mem_splitOn hpiece hdot

namespace GeneratedFile

/-- The names on the way to the file. -/
def segments (file : GeneratedFile) : List String := sourceSegments file.package file.typeName

theorem segments_eq (file : GeneratedFile) :
    file.segments = packageSegments file.package ++ [file.typeName ++ ".java"] := rfl

theorem WellPlaced.path_segments (h : file.WellPlaced) : file.path.segments = file.segments := by
  rw [h.path]
  exact Path.segments_joined (fun segment hsegment => (h.isName segment hsegment).slash)
    (by simp [sourceSegments])

theorem WellPlaced.join_path (h : file.WellPlaced) (root : Path) :
    root.join file.path = root.below file.segments := by
  rw [h.path]
  rfl

theorem WellPlaced.isName_package (h : file.WellPlaced) :
    ∀ name ∈ packageSegments file.package, IsName name :=
  fun name hname => h.isName name (List.mem_append_left _ hname)

theorem WellPlaced.isName_file (h : file.WellPlaced) : IsName (file.typeName ++ ".java") :=
  h.isName _ (List.mem_append_right _ (List.mem_singleton_self _))

/-- A file goes below the place that the output directory is at. -/
theorem WellPlaced.target_join (h : file.WellPlaced) (current : List String) (root : Path) :
    (root.join file.path).target current = root.target current ++ file.segments := by
  rw [h.join_path]
  exact Path.target_below current root h.isName (by simp [segments_eq])

/-- What comes of writing the file below a directory. -/
theorem WellPlaced.writing (h : file.WellPlaced) {result : Except WriteError Unit}
    (hwrite : tree.writeAtomic current naming (root.join file.path) file.source = (after, result)) :
    Writing current (root.join file.path) file.source.toUTF8 tree result after := by
  have htarget := Path.target_below_directory current root h.isName_package
    (packageSegments_ne_nil _) h.isName_file
  rw [← segments_eq, ← h.join_path] at htarget
  exact FileTree.writing_of_writeAtomic htarget hwrite

/-- Two files that go to one place declare one class. -/
theorem declared_eq_of_segments (h : file.segments = other.segments) :
    file.declared = other.declared := by
  obtain ⟨hpackage, hname⟩ := sourceSegments_injective h
  rw [declared, declared, hpackage, hname]

end GeneratedFile

/-! ## Files in a directory -/

/-- The files stand below the base with the directories on the way to them, and there is
nothing else below it; elsewhere nothing has changed. -/
structure Mirrors (holds : List String → String → Prop) (base : List String)
    (before after : FileTree) : Prop where
  files : ∀ names contents, after.node? (base ++ names) = some (.file contents) ↔
    ∃ text, holds names text ∧ text.toUTF8 = contents
  directories : ∀ names, after.node? (base ++ names) = some .directory ↔
    names = [] ∨ ∃ place text, holds place text ∧ names <+: place ∧ names ≠ place
  elsewhere : ∀ place, ¬ base <+: place → after.node? place = before.node? place

/-- An empty directory mirrors an empty map. -/
theorem Mirrors.of_empty (h : before.get? base = some .empty) :
    Mirrors (fun _ _ => False) base before before where
  files names contents := by
    rw [FileTree.node?_append, h, Option.bind_some]
    cases names <;> simp [FileTree.empty, FileTree.node, FileTree.node?_cons_directory]
  directories names := by
    rw [FileTree.node?_append, h, Option.bind_some]
    cases names <;> simp [FileTree.empty, FileTree.node, FileTree.node?_cons_directory]
  elsewhere _ _ := rfl

section Step

variable {holds : List String → String → Prop} {dirs : List String} {name text : String}
  (h : Mirrors holds base before tree)
  (hapart : ∀ place held, holds place held → ¬ place <+: dirs ∧ ¬ dirs ++ [name] <+: place)

include h hapart

theorem Mirrors.add
    (hnode : ∀ names, after.node? (base ++ names)
      = if names = dirs ++ [name] then some (.file text.toUTF8)
        else if names <+: dirs then some .directory else tree.node? (base ++ names))
    (helsewhere : ∀ place, ¬ base <+: place → after.node? place = tree.node? place) :
    Mirrors (fun names contents => names = dirs ++ [name] ∧ contents = text
      ∨ holds names contents) base before after where
  files names contents := by
    rw [hnode]
    by_cases hfile : names = dirs ++ [name]
    · subst hfile
      have hnone : ∀ held, ¬ holds (dirs ++ [name]) held := fun held hheld =>
        (hapart _ held hheld).2 (List.prefix_refl _)
      simp [hnone]
    · by_cases hdir : names <+: dirs
      · have hnone : ∀ held, ¬ holds names held := fun held hheld => (hapart _ held hheld).1 hdir
        simp [hfile, hdir, hnone]
      · simp [hfile, hdir, h.files]
  directories names := by
    rw [hnode]
    by_cases hfile : names = dirs ++ [name]
    · subst hfile
      rw [if_pos rfl]
      simp only [Option.some.injEq, reduceCtorEq, false_iff]
      rintro (hnil | ⟨place, held, ⟨rfl, -⟩ | hheld, hlead, hne⟩)
      · simp at hnil
      · exact hne rfl
      · exact (hapart place held hheld).2 hlead
    · rw [if_neg hfile]
      by_cases hdir : names <+: dirs
      · rw [if_pos hdir]
        refine iff_of_true rfl (.inr ⟨_, text, .inl ⟨rfl, rfl⟩, ?_, hfile⟩)
        exact hdir.trans (List.prefix_append ..)
      · rw [if_neg hdir, h.directories]
        refine or_congr_right (exists_congr fun place => exists_congr fun held => ?_)
        refine and_congr_left fun ⟨hlead, hne⟩ => (or_iff_right ?_).symm
        rintro ⟨rfl, -⟩
        exact (List.prefix_concat_iff.mp hlead).elim hne hdir
  elsewhere place hplace := (helsewhere place hplace).trans (h.elsewhere place hplace)

variable (hopens : Opens current tree root base) (hdirs : ∀ name ∈ dirs, IsName name)
  (hne : dirs ≠ []) (hname : IsName name)

include hopens hdirs hne hname

/-- A file that stands apart from the others is written beside them. -/
theorem Mirrors.write (naming : Naming) (text : String) :
    ∃ after, tree.writeAtomic current naming (root.below (dirs ++ [name])) text = (after, .ok ())
      ∧ Opens current after root base
      ∧ Mirrors (fun names contents => names = dirs ++ [name] ∧ contents = text
          ∨ holds names contents) base before after := by
  have hclear : Clear tree base dirs := by
    intro up hup contents hfile
    obtain ⟨held, hheld, -⟩ := (h.files up contents).mp hfile
    exact (hapart up held hheld).1 hup
  have hfree : tree.node? (base ++ dirs ++ [name]) ≠ some .directory := by
    rw [List.append_assoc, Ne, h.directories]
    rintro (hnil | ⟨place, held, hheld, hlead, -⟩)
    · simp at hnil
    · exact (hapart place held hheld).2 hlead
  obtain ⟨grown, after, hpaved, hwrite, hafter⟩ :=
    FileTree.writeAtomic_below hopens hdirs hclear hne hname hfree naming text
  refine ⟨after, hwrite, hopens.mono fun place hplace => ?_,
    h.add hapart (fun names => ?_) fun place hplace => ?_⟩
  · have hold : place ≠ base ++ dirs ++ [name] := fun heq => hfree (heq ▸ hplace)
    rw [hafter, if_neg hold, hpaved.kept hclear hplace]
  · rw [hafter, List.append_assoc]
    by_cases hfile : names = dirs ++ [name]
    · rw [if_pos hfile, hfile, if_pos rfl]
    · rw [if_neg hfile, if_neg fun heq => hfile (List.append_cancel_left heq)]
      by_cases hdir : names <+: dirs
      · rw [if_pos hdir, hpaved.directory names hdir]
      · rw [if_neg hdir]
        refine hpaved.other _ fun up hup heq => hdir ?_
        exact List.append_cancel_left heq ▸ hup
  · have houtside : ∀ names, place ≠ base ++ names := by
      rintro names rfl
      exact hplace (List.prefix_append ..)
    rw [hafter, List.append_assoc, if_neg (houtside _),
      hpaved.other place fun up _ => houtside up]

end Step

/-! ## Handing out to a directory -/

/-- One of the files has the contents and goes to the place. -/
def Holds (files : List GeneratedFile) (names : List String) (text : String) : Prop :=
  ∃ file ∈ files, file.segments = names ∧ file.source = text

theorem holds_concat (done : List GeneratedFile) (file : GeneratedFile) :
    Holds (done ++ [file])
      = fun names text => names = file.segments ∧ text = file.source ∨ Holds done names text := by
  funext names text
  simp [Holds, or_and_right, exists_or, or_comm, eq_comm]

/-- A file that declares another class stands in the way of none: it is neither above another
one nor below it. -/
theorem holds_apart (hnew : ∀ other ∈ done, other.declared ≠ file.declared) :
    ∀ place text, Holds done place text →
      ¬ place <+: packageSegments file.package ∧ ¬ file.segments <+: place := by
  rintro _ _ ⟨other, hother, rfl, rfl⟩
  refine ⟨not_prefix_package _ _ _, fun hlead => ?_⟩
  rcases List.prefix_concat_iff.mp hlead with hsame | hlead
  · exact hnew other hother (GeneratedFile.declared_eq_of_segments hsame).symm
  · exact not_prefix_package _ _ _ hlead

/-- A file that cannot be written is reported with the path to blame. -/
theorem call_directory {σ : Type} {world : FileSystem (StateM σ)} {first last : σ}
    {result : Except WriteError Unit}
    (h : (world.writeAtomic (root.join file.path) file.source).run first = (result, last)) :
    (Emitter.directory world root).call file first
      = ((result.map fun _ => root.join file.path).mapError .unwritable, last) := by
  unfold GeneratedFile.path at h
  rw [Emitter.call, Emitter.directory]
  simp only [StateT.run_bind, h]
  rcases result with blamed | ⟨⟩ <;> rfl

theorem run_writeAtomic {path : Path} {text : String} {result : Except WriteError Unit}
    (h : tree.writeAtomic current naming path text = (after, result)) :
    ((FileTree.fileSystem current naming).writeAtomic path text).run tree = (result, after) := by
  rw [FileTree.writeAtomic] at h
  rw [← Prod.swap_swap ((((FileTree.fileSystem current naming).writeAtomic path text).run tree)), h]
  rfl

/-- By induction on the files that are left, with the files that are done in the directory. -/
theorem handsOut_directory (hopens : Opens current tree root base)
    (h : Mirrors (Holds done) base before tree) (hplaced : ∀ file ∈ files, file.WellPlaced)
    (hdistinct : ((done ++ files).map GeneratedFile.declared).Nodup) :
    ∃ after, HandsOut (Emitter.directory (FileTree.fileSystem current naming) root) tree files
        (files.map fun file => root.join file.path) after
      ∧ Opens current after root base ∧ Mirrors (Holds (done ++ files)) base before after := by
  induction files generalizing done tree with
  | nil => exact ⟨tree, .nil, hopens, by rwa [List.append_nil]⟩
  | cons file rest ih =>
      obtain ⟨hfile, hrest⟩ := List.forall_mem_cons.mp hplaced
      have hnew : ∀ other ∈ done, other.declared ≠ file.declared := by
        intro other hother
        rw [List.map_append, List.nodup_append] at hdistinct
        exact hdistinct.2.2 _ (List.mem_map_of_mem hother) _ (List.mem_cons_self ..)
      obtain ⟨between, hwrite, hopens', h'⟩ := h.write (holds_apart hnew) hopens
        hfile.isName_package (packageSegments_ne_nil _) hfile.isName_file naming file.source
      rw [← GeneratedFile.segments_eq, ← hfile.join_path] at hwrite
      rw [← GeneratedFile.segments_eq, ← holds_concat] at h'
      rw [List.append_cons] at hdistinct ⊢
      obtain ⟨after, hall, hopens'', h''⟩ := ih hopens' h' hrest hdistinct
      exact ⟨after, .cons (call_directory (run_writeAtomic hwrite)) hall, hopens'', h''⟩

/-- Files that are there already are handed out without any change. -/
theorem handsOut_again (hopens : Opens current tree root base)
    (hplaced : ∀ file ∈ files, file.WellPlaced)
    (hfiles : ∀ file ∈ files,
      tree.node? (base ++ file.segments) = some (.file file.source.toUTF8)) :
    HandsOut (Emitter.directory (FileTree.fileSystem current naming) root) tree files
      (files.map fun file => root.join file.path) tree := by
  induction files with
  | nil => exact .nil
  | cons file rest ih =>
      obtain ⟨hfile, hrest⟩ := List.forall_mem_cons.mp hplaced
      obtain ⟨hheld, hfiles⟩ := List.forall_mem_cons.mp hfiles
      rw [GeneratedFile.segments_eq, ← List.append_assoc] at hheld
      have hwrite := FileTree.writeAtomic_again hopens hfile.isName_package
        (packageSegments_ne_nil _) hfile.isName_file hheld naming
      rw [← GeneratedFile.segments_eq, ← hfile.join_path] at hwrite
      exact .cons (call_directory (run_writeAtomic hwrite)) (ih hrest hfiles)

/-! ## A dry run -/

/-- A dry run takes every file, so it announces all of them. -/
theorem emitAll_dryRun {m : Type → Type} [Monad m] [LawfulMonad m] (print : String → m Unit)
    (files : List GeneratedFile) :
    (Emitter.dryRun print).emitAll files
      = files.forM (fun file => print (Emitter.announcement file.path file.source)) >>= fun _ =>
        pure (.ok (files.map GeneratedFile.path)) := by
  induction files with
  | nil => simp [Emitter.emitAll]
  | cons file rest ih =>
      rw [Emitter.emitAll, ih]
      simp [Emitter.dryRun, GeneratedFile.path]

/-! ## Agreement -/

/-- The map has a file with the contents whose path spells the place. -/
def FileMap.Holds (held : FileMap) (names : List String) (text : String) : Prop :=
  ∃ path, (path, text) ∈ held ∧ path.segments = names

theorem Prepared.wellPlaced (h : Prepared configuration modules files) :
    ∀ file ∈ files, file.WellPlaced := by
  obtain ⟨runtime, hresolve, -⟩ := Outcome.bind_eq_ok.mp (prepare_eq_ok_iff.mpr h)
  exact ((prepare_eq_ok hresolve).mp (prepare_eq_ok_iff.mpr h)).1.wellPlaced

/-- All classes differ, so no file of the map is replaced by another one. -/
theorem Prepared.entries_perm (h : Prepared configuration modules files) :
    (FileMap.insertAll [] (files.map GeneratedFile.entry)).Perm
      (files.map GeneratedFile.entry) := by
  have hdistinct := GeneratedFile.nodup_components h.wellPlaced h.distinct
  refine FileMap.insertAll_nil_perm ?_
  simpa only [List.map_map, Function.comp_def, GeneratedFile.entry] using hdistinct

/-- The map holds what the files are. -/
theorem Prepared.holds_eq (h : Prepared configuration modules files) :
    FileMap.Holds (FileMap.insertAll [] (files.map GeneratedFile.entry)) = Holds files := by
  funext names text
  simp only [FileMap.Holds, h.entries_perm.mem_iff, List.mem_map, GeneratedFile.entry,
    Prod.mk.injEq]
  refine propext ⟨?_, ?_⟩
  · rintro ⟨_, ⟨file, hfile, rfl, rfl⟩, hnames⟩
    exact ⟨file, hfile, by rwa [← (h.wellPlaced file hfile).path_segments], rfl⟩
  · rintro ⟨file, hfile, rfl, rfl⟩
    exact ⟨_, ⟨file, hfile, rfl, rfl⟩, (h.wellPlaced file hfile).path_segments⟩

theorem holds_nil : Holds [] = fun _ _ => False := by
  funext names text
  simp [Holds]

theorem generateAll_directory (h : Prepared configuration modules files)
    (hopens : Opens current before root base) (hempty : before.get? base = some .empty) :
    ∃ after,
      ((Emitter.directory (FileTree.fileSystem current naming) root).generateAll configuration modules).run
          before = (.ok (files.map fun file => root.join file.path), after)
        ∧ Mirrors (Holds files) base before after
        ∧ ((Emitter.directory (FileTree.fileSystem current naming) root).generateAll configuration
          modules).run after = (.ok (files.map fun file => root.join file.path), after) := by
  have hnone : Mirrors (Holds []) base before before := holds_nil ▸ Mirrors.of_empty hempty
  obtain ⟨after, hall, hopens', hmirrors⟩ :=
    handsOut_directory hopens hnone h.wellPlaced h.distinct
  rw [List.nil_append] at hmirrors
  have hagain : HandsOut (Emitter.directory (FileTree.fileSystem current naming) root) after files
      (files.map fun file => root.join file.path) after :=
    handsOut_again hopens' h.wellPlaced fun file hfile =>
      (hmirrors.files _ _).mpr ⟨file.source, ⟨file, hfile, rfl, rfl⟩, rfl⟩
  exact ⟨after, generateAll_run.mpr (.handedOut h (.complete hall)), hmirrors,
    generateAll_run.mpr (.handedOut h (.complete hagain))⟩

/-- Where a pass comes through in memory, it comes through in an empty directory, which
then holds the files of the map and nothing else, and a second pass changes nothing; and
a dry run shows the files of the map in the order of the modules. -/
theorem emitters_agree {paths : List Path} {held : FileMap}
    (h : (Emitter.memory.generateAll configuration modules).run [] = (.ok paths, held)) :
    (∀ (current : List String) (naming : Naming) (before : FileTree) (root : Path)
        (base : List String),
        Opens current before root base → before.get? base = some .empty →
          ∃ after,
            ((Emitter.directory (FileTree.fileSystem current naming) root).generateAll
                configuration modules).run before = (.ok (paths.map root.join), after)
              ∧ Mirrors held.Holds base before after
              ∧ ((Emitter.directory (FileTree.fileSystem current naming) root).generateAll
                configuration modules).run after = (.ok (paths.map root.join), after))
      ∧ ∃ shown : FileMap, shown.map Prod.fst = paths ∧ shown.Perm held
        ∧ ∀ (m : Type → Type) [Monad m] [LawfulMonad m] (print : String → m Unit),
          (Emitter.dryRun print).generateAll configuration modules
            = shown.forM (fun entry =>
                print ("=== " ++ entry.1.text ++ " ===\n" ++ entry.2 ++ "\n"))
              >>= fun _ => pure (.ok paths) := by
  obtain ⟨files, hprepare, rfl, rfl⟩ := generateAll_memory_eq_ok.mp h
  have hfiles := prepare_eq_ok_iff.mp hprepare
  constructor
  · intro current naming before root base hopens hempty
    have hpaths : (files.map GeneratedFile.path).map root.join
        = files.map fun file => root.join file.path := List.map_map
    rw [hpaths, hfiles.holds_eq]
    exact generateAll_directory hfiles hopens hempty
  · refine ⟨files.map GeneratedFile.entry, ?_, hfiles.entries_perm.symm, ?_⟩
    · rw [List.map_map]
      rfl
    · intro m _ _ print
      rw [generateAll_of_prepared hfiles, emitAll_dryRun, List.forM_eq_forM, List.forM_eq_forM,
        List.forM_map]
      rfl

/-- A home directory with an empty directory in it. -/
def emptyOutput : FileTree := .directory [("home", .directory [("out", .empty)])]

/-- Two classes of one name go to a directory and to one below it. -/
theorem emitters_agree_neighbours :
    ∃ paths held,
      (Emitter.memory.generateAll .standard [Module.sample, neighbour]).run [] = (.ok paths, held)
        ∧ Opens ["home"] emptyOutput ⟨"./out/"⟩ ["home", "out"]
        ∧ emptyOutput.get? ["home", "out"] = some .empty
        ∧ ∃ after,
          ((Emitter.directory (FileTree.fileSystem ["home"] .longer) ⟨"./out/"⟩).generateAll .standard
              [Module.sample, neighbour]).run emptyOutput
              = (.ok (paths.map (Path.join ⟨"./out/"⟩)), after)
            ∧ Mirrors held.Holds ["home", "out"] emptyOutput after := by
  have hvalid : ∀ module ∈ [Module.sample, neighbour], module.validate = .ok () := by
    decide +kernel
  have hdistinct : ([Module.sample, neighbour].map fun module =>
      (module.packageName?, module.simpleName)).Nodup := by decide +kernel
  obtain ⟨files, hfiles⟩ :=
    prepare_succeeds_iff.mpr ⟨Configuration.standard_resolves, hvalid, hdistinct⟩
  have hheld := generateAll_memory_eq_ok.mpr ⟨files, hfiles, rfl, rfl⟩
  have hopens : Opens ["home"] emptyOutput ⟨"./out/"⟩ ["home", "out"] :=
    ⟨.inr (by decide +kernel), rfl⟩
  obtain ⟨after, hrun, hmirrors, -⟩ := (emitters_agree hheld).1 _ _ _ _ _ hopens rfl
  exact ⟨_, _, hheld, hopens, rfl, after, hrun, hmirrors⟩

end ModuleContainers
