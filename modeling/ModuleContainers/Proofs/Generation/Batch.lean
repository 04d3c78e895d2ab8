import Mathlib.Data.List.Forall2
import Mathlib.Data.List.Nodup
import Mathlib.Data.List.Perm.Basic
import ModuleContainers.Proofs.Container.Class
import ModuleContainers.Proofs.Container.Completeness
import ModuleContainers.Proofs.Generation.FileMap

/-!
# Batches

A batch is good when each of its modules is and when no two of them generate the
same class (`prepare_succeeds_iff`). The path of a class spells its package and
its name, so different classes have different paths (`path_injective`), and no
file of a batch takes the place of another: in memory the batch is what its
modules give one by one, in whatever order they stand (`generateAll_memory`).
-/

namespace ModuleContainers

open ModuleContainers.Files (Component Path)
open ModuleContainers.Files.Path (IsName joined)
open ModuleContainers.Java (ClassName IsPath isIdentifier)
open ModuleContainers.Metadata (Module)
open Outcome (bind_eq_ok check_eq_ok mapM_eq_ok mapM_succeeds pure_eq_ok)

variable {configuration : Configuration} {runtime : Runtime ClassName} {modules : List Module}

/-! ## Paths of classes -/

/-- The names on the way to a class. -/
def sourceSegments (package typeName : String) : List String :=
  Text.splitOn '.' package ++ [typeName ++ ".java"]

theorem isName_of_isIdentifier {text : String} (h : isIdentifier text = true) : IsName text where
  slash := Java.not_mem_of_hasIdentifierShape (Java.isIdentifier_shape h) (by decide)
  empty := by rintro rfl; revert h; decide
  current := by rintro rfl; revert h; decide
  parent := by rintro rfl; revert h; decide

theorem isName_fileName {typeName : String} (h : isIdentifier typeName = true) :
    IsName (typeName ++ ".java") := by
  have hlong : 2 < (typeName ++ ".java").length := by
    rw [String.length_append, show ".java".length = 5 from rfl]
    omega
  have hne : ∀ short : String, short.length ≤ 2 → typeName ++ ".java" ≠ short :=
    fun short hshort heq => by rw [heq] at hlong; omega
  refine ⟨?_, hne _ (by decide), hne _ (by decide), hne _ (by decide)⟩
  simpa using (isName_of_isIdentifier h).slash

theorem isName_sourceSegments {package typeName : String} (hpackage : IsPath package)
    (hname : isIdentifier typeName = true) :
    ∀ segment ∈ sourceSegments package typeName, IsName segment := by
  intro segment hsegment
  rcases List.mem_append.mp hsegment with hsegment | hsegment
  · exact isName_of_isIdentifier (hpackage segment hsegment)
  · exact List.mem_singleton.mp hsegment ▸ isName_fileName hname

/-- The path of a class is its segments with slashes between them. -/
theorem sourcePath_eq_joined {package typeName : String} (hpackage : IsPath package)
    (hname : isIdentifier typeName = true) :
    sourcePath package typeName = joined (sourceSegments package typeName) := by
  have hall : (Text.splitOn '.' package).filter (· != "") = Text.splitOn '.' package :=
    List.filter_eq_self.mpr fun segment hsegment => by
      simpa using (isName_of_isIdentifier (hpackage segment hsegment)).empty
  rw [sourcePath, hall, ← Path.foldl_join (isName_sourceSegments hpackage hname), sourceSegments,
    List.map_append]
  rfl

theorem sourceSegments_injective {package package' typeName typeName' : String}
    (h : sourceSegments package typeName = sourceSegments package' typeName') :
    package = package' ∧ typeName = typeName' := by
  obtain ⟨hpackage, hfile⟩ := List.append_inj' h rfl
  constructor
  · have hpieces := (List.map_inj_right fun _ _ => String.ofList_injective).mp hpackage
    have hjoined := congrArg (['.'].intercalate ·) hpieces
    simp only [List.intercalate_splitOn] at hjoined
    exact String.toList_inj.mp hjoined
  · simpa using hfile

/-! ## One file -/

namespace GeneratedFile

/-- The class that the file declares. -/
def declared (file : GeneratedFile) : String × String := (file.package, file.typeName)

/-- The package and the type are what source can have for them. -/
structure WellPlaced (file : GeneratedFile) : Prop where
  package : IsPath file.package
  typeName : isIdentifier file.typeName = true

variable {file file' : GeneratedFile}

theorem WellPlaced.isName (h : file.WellPlaced) :
    ∀ segment ∈ sourceSegments file.package file.typeName, IsName segment :=
  isName_sourceSegments h.package h.typeName

theorem WellPlaced.path (h : file.WellPlaced) :
    file.path = joined (sourceSegments file.package file.typeName) :=
  sourcePath_eq_joined h.package h.typeName

theorem WellPlaced.components (h : file.WellPlaced) :
    file.path.components = (sourceSegments file.package file.typeName).map .name := by
  rw [h.path, Path.components_joined h.isName]

/-- The path of a file tells its class. -/
theorem declared_eq_of_components (h : file.WellPlaced) (h' : file'.WellPlaced)
    (hsame : file.path.components = file'.path.components) : file.declared = file'.declared := by
  rw [h.components, h'.components] at hsame
  have hsegments := (List.map_inj_right fun _ _ => Component.name.inj).mp hsame
  obtain ⟨hpackage, hname⟩ := sourceSegments_injective hsegments
  rw [declared, declared, hpackage, hname]

theorem nodup_components {files : List GeneratedFile} (hplaced : ∀ file ∈ files, file.WellPlaced)
    (h : (files.map declared).Nodup) : (files.map fun file => file.path.components).Nodup := by
  rw [List.Nodup, List.pairwise_map] at h ⊢
  exact h.imp_of_mem fun hfile hother hne hsame =>
    hne (declared_eq_of_components (hplaced _ hfile) (hplaced _ hother) hsame)

end GeneratedFile

theorem renderModule_eq_ok {module : Module} {file : GeneratedFile}
    (h : renderModule configuration runtime module = .ok file) :
    module.validate = .ok () ∧ module.entranceParts = some file.declared ∧ file.WellPlaced := by
  obtain ⟨hvalid, h⟩ := check_eq_ok.mp h
  obtain ⟨unit, hunit, h⟩ := bind_eq_ok.mp h
  obtain rfl := pure_eq_ok.mp h
  obtain ⟨⟨package, typeName⟩, hentrance, h⟩ := bind_eq_ok.mp hunit
  obtain ⟨fs, -, h⟩ := bind_eq_ok.mp h
  obtain rfl := pure_eq_ok.mp h
  obtain ⟨hpackage, hname⟩ := Container.entrance_eq_ok hentrance
  exact ⟨hvalid, Container.entranceParts_of_entrance hentrance, hpackage, hname⟩

theorem renderModule_succeeds (configuration : Configuration) (runtime : Runtime ClassName)
    {module : Module} (h : module.validate = .ok ()) :
    ∃ file, renderModule configuration runtime module = .ok file := by
  obtain ⟨unit, hunit⟩ :=
    Container.unit_succeeds runtime (Module.wellNamed_of_validate h) configuration.banner
  exact ⟨_, by rw [renderModule, h]; simp only [bind, Except.bind, hunit]; rfl⟩

/-! ## Preparing a batch -/

/-- Nothing clashes when all classes differ, from each other and from those that
were seen before. -/
theorem clash?_eq_none {items : List (Module × GeneratedFile)} :
    ∀ {seen : List (GeneratedFile × String)}, clash? seen items = none ↔
      (∀ item ∈ items, ∀ other ∈ seen, other.1.declared ≠ item.2.declared)
        ∧ (items.map fun item => item.2.declared).Nodup := by
  induction items with
  | nil => simp [clash?]
  | cons item rest ih =>
      intro seen
      obtain ⟨module, file⟩ := item
      have hsame : ∀ other : GeneratedFile × String,
          (other.1.package == file.package && other.1.typeName == file.typeName) = true ↔
            other.1.declared = file.declared := by
        simp [GeneratedFile.declared]
      rw [clash?]
      split
      · next other first hfind =>
          have hother := List.mem_of_find?_eq_some hfind
          have hfound := List.find?_some hfind
          simp only [reduceCtorEq, false_iff]
          rintro ⟨hall, -⟩
          exact hall (module, file) (List.mem_cons_self ..) (other, first) hother
            ((hsame (other, first)).mp hfound)
      · next hfind =>
          have hnew : ∀ other ∈ seen, other.1.declared ≠ file.declared := fun other hother heq =>
            List.find?_eq_none.mp hfind other hother ((hsame other).mpr heq)
          rw [ih, List.map_cons, List.nodup_cons, List.forall_mem_cons]
          constructor
          · rintro ⟨hseen, hnodup⟩
            refine ⟨⟨hnew, fun next hnext other hother =>
              hseen next hnext other (List.mem_cons_of_mem _ hother)⟩, fun hmem => ?_, hnodup⟩
            obtain ⟨next, hnext, heq⟩ := List.mem_map.mp hmem
            exact hseen next hnext _ (List.mem_cons_self ..) heq.symm
          · rintro ⟨⟨-, hseen⟩, hfresh, hnodup⟩
            refine ⟨fun next hnext other hother => ?_, hnodup⟩
            rcases List.mem_cons.mp hother with rfl | hother
            · exact fun heq => hfresh (List.mem_map.mpr ⟨next, hnext, heq.symm⟩)
            · exact hseen next hnext other hother

/-- The files of a batch, for a runtime whose classes are known. -/
def Rendered (configuration : Configuration) (runtime : Runtime ClassName) (modules : List Module)
    (files : List GeneratedFile) : Prop :=
  List.Forall₂ (fun module file => renderModule configuration runtime module = .ok file)
    modules files

/-- A batch is prepared when all modules are rendered and all classes differ. -/
theorem prepare_eq_ok (hresolve : configuration.resolve = .ok runtime)
    {files : List GeneratedFile} :
    prepare configuration modules = .ok files ↔
      Rendered configuration runtime modules files
        ∧ (files.map GeneratedFile.declared).Nodup := by
  have hclash : ∀ {files}, Rendered configuration runtime modules files →
      (clash? [] (modules.zip files) = none ↔ (files.map GeneratedFile.declared).Nodup) := by
    intro files h
    have hzip : (modules.zip files).map (fun item => item.2.declared)
        = files.map GeneratedFile.declared := by
      conv_rhs => rw [← List.map_snd_zip h.length_eq.ge, List.map_map]
      rfl
    rw [clash?_eq_none, hzip]
    simp
  rw [prepare, hresolve]
  constructor
  · intro h
    obtain ⟨_, hruntime, h⟩ := bind_eq_ok.mp h
    obtain rfl := Except.ok.inj hruntime
    obtain ⟨found, hfound, h⟩ := bind_eq_ok.mp h
    have hrendered : Rendered configuration runtime modules found := mapM_eq_ok.mp hfound
    split at h
    · cases h
    · next hnone =>
        obtain rfl := pure_eq_ok.mp h
        exact ⟨hrendered, (hclash hrendered).mp hnone⟩
  · rintro ⟨hrendered, hnodup⟩
    refine bind_eq_ok.mpr ⟨runtime, rfl, bind_eq_ok.mpr ⟨files, mapM_eq_ok.mpr hrendered, ?_⟩⟩
    rw [(hclash hrendered).mpr hnodup]
    rfl

theorem Rendered.valid {files : List GeneratedFile}
    (h : Rendered configuration runtime modules files) :
    ∀ module ∈ modules, module.validate = .ok () := by
  induction h with
  | nil => simp
  | cons hfile _ ih => exact List.forall_mem_cons.mpr ⟨(renderModule_eq_ok hfile).1, ih⟩

theorem Rendered.wellPlaced {files : List GeneratedFile}
    (h : Rendered configuration runtime modules files) : ∀ file ∈ files, file.WellPlaced := by
  induction h with
  | nil => simp
  | cons hfile _ ih => exact List.forall_mem_cons.mpr ⟨(renderModule_eq_ok hfile).2.2, ih⟩

/-- The class of a file is the entrance class of its module. -/
theorem Rendered.entrances {files : List GeneratedFile}
    (h : Rendered configuration runtime modules files) :
    modules.map (fun module => (module.packageName?, module.simpleName))
      = (files.map GeneratedFile.declared).map (Prod.map some id) := by
  induction h with
  | nil => rfl
  | cons hfile _ ih =>
      have hparts := (renderModule_eq_ok hfile).2.1
      rw [List.map_cons, ih]
      simp [Module.packageName?, Module.simpleName, hparts, GeneratedFile.declared]

/-- A batch can be prepared exactly when the runtime can be resolved, every
module is good, and no two modules have the same entrance class. -/
theorem prepare_succeeds_iff :
    (∃ files, prepare configuration modules = .ok files) ↔
      (∃ runtime, configuration.resolve = .ok runtime)
        ∧ (∀ module ∈ modules, module.validate = .ok ())
        ∧ (modules.map fun module => (module.packageName?, module.simpleName)).Nodup := by
  have hinjective : Function.Injective (Prod.map some id : String × String → _) :=
    fun _ _ h => by simpa [Prod.ext_iff] using h
  constructor
  · rintro ⟨files, h⟩
    obtain ⟨runtime, hresolve, -⟩ := bind_eq_ok.mp h
    obtain ⟨hrendered, hnodup⟩ := (prepare_eq_ok hresolve).mp h
    refine ⟨⟨runtime, hresolve⟩, hrendered.valid, ?_⟩
    rw [hrendered.entrances]
    exact hnodup.map hinjective
  · rintro ⟨⟨runtime, hresolve⟩, hvalid, hnodup⟩
    obtain ⟨files, hfiles⟩ := mapM_succeeds fun module hmem =>
      renderModule_succeeds configuration runtime (hvalid module hmem)
    have hrendered : Rendered configuration runtime modules files := mapM_eq_ok.mp hfiles
    rw [hrendered.entrances] at hnodup
    exact ⟨files, (prepare_eq_ok hresolve).mpr ⟨hrendered, hnodup.of_map _⟩⟩

/-! ## Handing files out -/

section HandingOut

variable {σ : Type} {emitter : Emitter (StateM σ)} {before after : σ} {file : GeneratedFile}
  {rest : List GeneratedFile}

/-- What the emitter answers to a file, and the state it is in afterwards. -/
def Emitter.call (emitter : Emitter (StateM σ)) (file : GeneratedFile) (before : σ) :
    Except Failure Path × σ :=
  (emitter.emit file.package file.typeName file.source).run before

theorem emitAll_cons_of_error {failure : Failure}
    (hfile : emitter.call file before = (.error failure, after)) :
    (emitter.emitAll (file :: rest)).run before = (.error failure, after) := by
  unfold Emitter.call at hfile
  rw [Emitter.emitAll, StateT.run_bind, hfile]
  rfl

theorem emitAll_cons_of_ok {path : Path} {between : σ}
    (hfile : emitter.call file before = (.ok path, between)) :
    (emitter.emitAll (file :: rest)).run before
      = match (emitter.emitAll rest).run between with
        | (.ok paths, after) => (.ok (path :: paths), after)
        | (.error failure, after) => (.error failure, after) := by
  unfold Emitter.call at hfile
  rw [Emitter.emitAll, StateT.run_bind, hfile]
  change (emitter.emitAll rest >>= _).run between = _
  rw [StateT.run_bind]
  rcases (emitter.emitAll rest).run between with ⟨failure | paths, after⟩ <;> rfl

end HandingOut

/-! ## Files in memory -/

def GeneratedFile.entry (file : GeneratedFile) : Path × String := (file.path, file.source)

theorem emitAll_memory (files : List GeneratedFile) (held : FileMap) :
    (Emitter.memory.emitAll files).run held
      = (.ok (files.map GeneratedFile.path), held.insertAll (files.map GeneratedFile.entry)) := by
  induction files generalizing held with
  | nil => rfl
  | cons file rest ih =>
      have hcall : Emitter.memory.call file held
          = (.ok file.path, FileMap.insert held file.path file.source) := rfl
      rw [emitAll_cons_of_ok hcall, ih]
      rfl

/-- The path is made of the parts of the module's package and the name of the
file, and of nothing else. -/
def Placed (module : Module) (path : Path) : Prop :=
  ∃ package, module.packageName? = some package
    ∧ (∀ segment ∈ sourceSegments package module.simpleName, IsName segment)
    ∧ path.text = String.intercalate "/" (sourceSegments package module.simpleName)
    ∧ path.components = (sourceSegments package module.simpleName).map .name
    ∧ path.isAbsolute = false

/-- What a batch leaves in memory: one file for each module, at a path that spells
its class, with the source that its module alone gives. -/
structure Batch (configuration : Configuration) (modules : List Module) (paths : List Path)
    (held : FileMap) : Prop where
  /-- No two files have the same path. -/
  distinct : (paths.map Path.components).Nodup
  placed : List.Forall₂ Placed modules paths
  /-- The files are those of the modules, one for each, and they can be looked up. -/
  files : ∃ files,
    List.Forall₂ (fun module file => generate configuration module = .ok file) modules files
      ∧ paths = files.map GeneratedFile.path
      ∧ held.Perm (files.map GeneratedFile.entry)
      ∧ ∀ file ∈ files, held.get? file.path = some file.source
  /-- The order of the modules does not show. -/
  reorder : ∀ modules', modules.Perm modules' →
    ∃ paths', (Emitter.memory.generateAll configuration modules').run [] = (.ok paths', held)

theorem generateAll_memory_eq_ok {paths : List Path} {held : FileMap} :
    (Emitter.memory.generateAll configuration modules).run [] = (.ok paths, held) ↔
      ∃ files, prepare configuration modules = .ok files
        ∧ paths = files.map GeneratedFile.path
        ∧ held = .insertAll [] (files.map GeneratedFile.entry) := by
  rw [Emitter.generateAll]
  cases prepare configuration modules with
  | error failure =>
      constructor
      · intro h
        cases congrArg Prod.fst h
      · rintro ⟨_, h, -⟩
        cases h
  | ok files =>
      simp only [emitAll_memory, Except.ok.injEq, exists_eq_left']
      constructor
      · intro h
        obtain ⟨hpaths, hheld⟩ := Prod.mk.inj h
        exact ⟨(Except.ok.inj hpaths).symm, hheld.symm⟩
      · rintro ⟨rfl, rfl⟩
        rfl

theorem Rendered.placed {files : List GeneratedFile}
    (h : Rendered configuration runtime modules files) :
    List.Forall₂ Placed modules (files.map GeneratedFile.path) := by
  rw [List.forall₂_map_right_iff]
  refine List.Forall₂.imp (fun module file hfile => ?_) h
  obtain ⟨-, hparts, hplaced⟩ := renderModule_eq_ok hfile
  have hname : module.simpleName = file.typeName := by rw [Module.simpleName, hparts]; rfl
  refine ⟨file.package, by rw [Module.packageName?, hparts]; rfl, ?_⟩
  rw [hname, hplaced.components, hplaced.path]
  exact ⟨hplaced.isName, rfl, rfl, Path.isAbsolute_joined hplaced.isName⟩

/-- Modules in another order give the same files in that order. -/
theorem Rendered.reorder {files : List GeneratedFile} {modules' : List Module}
    (h : Rendered configuration runtime modules files) (hperm : modules.Perm modules') :
    ∃ files', Rendered configuration runtime modules' files' ∧ files.Perm files' := by
  obtain ⟨files', hfiles', hsame⟩ := List.perm_comp_forall₂ hperm.symm h
  exact ⟨files', hfiles', hsame.symm⟩

theorem batch_of_prepare {files : List GeneratedFile}
    (h : prepare configuration modules = .ok files) :
    Batch configuration modules (files.map GeneratedFile.path)
      (.insertAll [] (files.map GeneratedFile.entry)) := by
  obtain ⟨runtime, hresolve, -⟩ := bind_eq_ok.mp h
  obtain ⟨hrendered, hnodup⟩ := (prepare_eq_ok hresolve).mp h
  have hdistinct := GeneratedFile.nodup_components hrendered.wellPlaced hnodup
  have hentries : ((files.map GeneratedFile.entry).map fun entry => entry.1.components).Nodup := by
    simpa only [List.map_map, Function.comp_def, GeneratedFile.entry] using hdistinct
  have hheld := FileMap.insertAll_nil_perm hentries
  refine ⟨?_, hrendered.placed, ⟨files, ?_, rfl, hheld, fun file hfile => ?_⟩, ?_⟩
  · simpa only [List.map_map, Function.comp_def] using hdistinct
  · exact hrendered.imp fun module file hfile => by rw [generate, hresolve]; exact hfile
  · exact FileMap.get?_eq_some (FileMap.sorted_insertAll _ .nil)
      (hheld.mem_iff.mpr (List.mem_map_of_mem hfile))
  · intro modules' hperm
    obtain ⟨files', hrendered', hsame⟩ := hrendered.reorder hperm
    have hnodup' := (hsame.map GeneratedFile.declared).nodup_iff.mp hnodup
    refine ⟨_, generateAll_memory_eq_ok.mpr
      ⟨files', (prepare_eq_ok hresolve).mpr ⟨hrendered', hnodup'⟩, rfl, ?_⟩⟩
    exact FileMap.insertAll_eq_of_perm (hsame.map GeneratedFile.entry) hentries

/-- A batch comes through exactly when the runtime can be resolved, every module
is good and no two have the same entrance class; and then no file takes the place
of another. -/
theorem generateAll_memory (configuration : Configuration) (modules : List Module) :
    ((∃ paths held,
        (Emitter.memory.generateAll configuration modules).run [] = (.ok paths, held)) ↔
      (∃ runtime, configuration.resolve = .ok runtime)
        ∧ (∀ module ∈ modules, module.validate = .ok ())
        ∧ (modules.map fun module => (module.packageName?, module.simpleName)).Nodup)
      ∧ ∀ paths held,
        (Emitter.memory.generateAll configuration modules).run [] = (.ok paths, held) →
          Batch configuration modules paths held := by
  constructor
  · rw [← prepare_succeeds_iff]
    constructor
    · rintro ⟨paths, held, h⟩
      obtain ⟨files, hfiles, -⟩ := generateAll_memory_eq_ok.mp h
      exact ⟨files, hfiles⟩
    · rintro ⟨files, hfiles⟩
      exact ⟨_, _, generateAll_memory_eq_ok.mpr ⟨files, hfiles, rfl, rfl⟩⟩
  · intro paths held h
    obtain ⟨files, hfiles, rfl, rfl⟩ := generateAll_memory_eq_ok.mp h
    exact batch_of_prepare hfiles

/-- The sample module in a package below its own. -/
def neighbour : Module := { Module.sample with entranceClass := "com.example.inner.GreeterModule" }

/-- Classes of one name in two packages are a good batch. -/
theorem generateAll_memory_neighbours :
    (∃ runtime, Configuration.standard.resolve = .ok runtime)
      ∧ (∀ module ∈ [Module.sample, neighbour], module.validate = .ok ())
      ∧ ∃ paths held,
        (Emitter.memory.generateAll .standard [Module.sample, neighbour]).run []
            = (.ok paths, held)
          ∧ Batch .standard [Module.sample, neighbour] paths held := by
  have hresolve : ∃ runtime, Configuration.standard.resolve = .ok runtime := by
    obtain ⟨runtime, hruntime⟩ := Runtime.standard_resolves
    exact ⟨runtime, by rw [Configuration.resolve, Configuration.standard, hruntime]; rfl⟩
  have hvalid : ∀ module ∈ [Module.sample, neighbour], module.validate = .ok () := by
    decide +kernel
  have hdistinct : ([Module.sample, neighbour].map fun module =>
      (module.packageName?, module.simpleName)).Nodup := by decide +kernel
  obtain ⟨hsucceeds, hbatch⟩ := generateAll_memory .standard [Module.sample, neighbour]
  obtain ⟨paths, held, h⟩ := hsucceeds.mpr ⟨hresolve, hvalid, hdistinct⟩
  exact ⟨hresolve, hvalid, paths, held, h, hbatch paths held h⟩

end ModuleContainers
