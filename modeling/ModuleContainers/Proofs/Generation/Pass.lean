import ModuleContainers.Proofs.Generation.Batch

/-!
# A pass over a batch

A pass has two phases. Everything is prepared before the emitter is asked for
anything, so whatever is wrong with the configuration, with a module or with the
batch as a whole refuses the pass while nothing has been handed out (`Refused`,
`prepare_eq_error`). Then the files are handed out in the order of the modules, up
to the first that is not taken (`HandsOut`, `emitAll_run`). There is nothing else
that a pass can do (`generateAll_outcome`).
-/

namespace ModuleContainers

open ModuleContainers.Files (Path)
open ModuleContainers.Java (ClassName)
open ModuleContainers.Metadata (Module)
open Outcome (bind_eq_error bind_eq_ok fails_iff mapM_eq_error mapM_eq_ok mapM_succeeds)

variable {configuration : Configuration} {runtime : Runtime ClassName} {modules : List Module}
  {failure : Failure}

/-! ## The first clash -/

/-- The file declares the class of one that was seen. -/
def sameClass (file : GeneratedFile) (seen : GeneratedFile × String) : Bool :=
  seen.1.package == file.package && seen.1.typeName == file.typeName

theorem sameClass_iff {file : GeneratedFile} {seen : GeneratedFile × String} :
    sameClass file seen = true ↔ seen.1.declared = file.declared := by
  simp [sameClass, GeneratedFile.declared]

/-- What the search for a clash has seen when it has passed the items. -/
def seenAfter (items : List (Module × GeneratedFile)) : List (GeneratedFile × String) :=
  (items.map fun item => (item.2, item.1.name)).reverse

theorem clash?_cons (seen : List (GeneratedFile × String)) (module : Module) (file : GeneratedFile)
    (items : List (Module × GeneratedFile)) :
    clash? seen ((module, file) :: items)
      = match seen.find? (sameClass file) with
        | some (_, first) => some (.duplicateEntranceClass file.className first module.name)
        | none => clash? ((file, module.name) :: seen) items := rfl

/-- The search goes on behind items without a clash. -/
theorem clash?_append (seen : List (GeneratedFile × String))
    (earlier items : List (Module × GeneratedFile)) :
    clash? seen (earlier ++ items)
      = (clash? seen earlier).or (clash? (seenAfter earlier ++ seen) items) := by
  induction earlier generalizing seen with
  | nil => rfl
  | cons item rest ih =>
      obtain ⟨module, file⟩ := item
      have hseen : seenAfter ((module, file) :: rest) ++ seen
          = seenAfter rest ++ (file, module.name) :: seen := by simp [seenAfter]
      rw [List.cons_append, clash?_cons, clash?_cons, hseen]
      split
      · rfl
      · exact ih _

/-- The search ends at the first item whose class has been seen. -/
theorem clash?_eq_some {items : List (Module × GeneratedFile)}
    {seen : List (GeneratedFile × String)} :
    clash? seen items = some failure ↔
      ∃ earlier module file later other first, items = earlier ++ (module, file) :: later
        ∧ clash? seen earlier = none
        ∧ (seenAfter earlier ++ seen).find? (sameClass file) = some (other, first)
        ∧ failure = .duplicateEntranceClass file.className first module.name := by
  constructor
  · intro h
    induction items generalizing seen with
    | nil => cases h
    | cons item rest ih =>
        obtain ⟨module, file⟩ := item
        rw [clash?_cons] at h
        split at h
        · next other first hfind =>
            exact ⟨[], module, file, rest, other, first, rfl, rfl, hfind, (Option.some.inj h).symm⟩
        · next hfind =>
            obtain ⟨earlier, second, found, later, other, first, rfl, hearlier, hfound, hfailure⟩ :=
              ih h
            refine ⟨(module, file) :: earlier, second, found, later, other, first, rfl, ?_, ?_,
              hfailure⟩
            · rw [clash?_cons, hfind]
              exact hearlier
            · simpa [seenAfter] using hfound
  · rintro ⟨earlier, module, file, later, other, first, rfl, hearlier, hfound, rfl⟩
    rw [clash?_append, hearlier, Option.none_or, clash?_cons, hfound]

theorem clash?_nil_eq_none {items : List (Module × GeneratedFile)} :
    clash? [] items = none ↔ (items.map fun item => item.2.declared).Nodup := by
  rw [clash?_eq_none]
  simp

/-- A clash is reported at the first item that has the class of one before it, with
the one item before it that has this class. -/
theorem clash?_nil_eq_some {items : List (Module × GeneratedFile)} :
    clash? [] items = some failure ↔
      ∃ earlier first file between second file' later,
        items = earlier ++ (first, file) :: between ++ (second, file') :: later
          ∧ ((earlier ++ (first, file) :: between).map fun item => item.2.declared).Nodup
          ∧ file.declared = file'.declared
          ∧ failure = .duplicateEntranceClass file'.className first.name second.name := by
  have hmem_seen : ∀ {passed : List (Module × GeneratedFile)} {file : GeneratedFile}
      {name : String}, (file, name) ∈ seenAfter passed ++ [] ↔
        ∃ item ∈ passed, item.2 = file ∧ item.1.name = name := by
    simp [seenAfter]
  rw [clash?_eq_some]
  constructor
  · rintro ⟨passed, second, file', later, file, name, rfl, hpassed, hfound, rfl⟩
    obtain ⟨⟨first, found⟩, hitem, rfl, rfl⟩ := hmem_seen.mp (List.mem_of_find?_eq_some hfound)
    obtain ⟨earlier, between, rfl⟩ := List.append_of_mem hitem
    exact ⟨earlier, first, found, between, second, file', later, rfl,
      clash?_nil_eq_none.mp hpassed, sameClass_iff.mp (List.find?_some hfound), rfl⟩
  · rintro ⟨earlier, first, file, between, second, file', later, rfl, hnodup, hsame, rfl⟩
    have hmem : (first, file) ∈ earlier ++ (first, file) :: between :=
      List.mem_append_right _ (List.mem_cons_self ..)
    have hsome : ((seenAfter (earlier ++ (first, file) :: between) ++ []).find?
        (sameClass file')).isSome :=
      List.find?_isSome.mpr ⟨_, hmem_seen.mpr ⟨_, hmem, rfl, rfl⟩, sameClass_iff.mpr hsame⟩
    obtain ⟨⟨other, name⟩, hfound⟩ := Option.isSome_iff_exists.mp hsome
    obtain ⟨item, hitem, rfl, rfl⟩ := hmem_seen.mp (List.mem_of_find?_eq_some hfound)
    -- The classes of the items that were passed differ, so it is the same item.
    have hother := sameClass_iff.mp (List.find?_some hfound)
    obtain rfl := List.inj_on_of_nodup_map hnodup hitem hmem (hother.trans hsame.symm)
    exact ⟨_, second, file', later, _, _, rfl, clash?_nil_eq_none.mpr hnodup, hfound, rfl⟩

/-! ## A refused pass -/

/-- Why a pass is refused before anything is handed out. -/
inductive Refused (configuration : Configuration) (modules : List Module) : Failure → Prop where
  /-- The runtime cannot be resolved. -/
  | unresolved {failure : Failure} (hfailure : configuration.resolve = .error failure) :
      Refused configuration modules failure
  /-- The first module that is not good. -/
  | invalid {runtime : Runtime ClassName} {earlier later : List Module} {module : Module}
      {failure : Failure} (hresolve : configuration.resolve = .ok runtime)
      (hmodules : modules = earlier ++ module :: later)
      (hearlier : ∀ good ∈ earlier, good.validate = .ok ())
      (hfailure : module.validate = .error failure) :
      Refused configuration modules failure
  /-- All modules are good, and the second one is the first that generates the class
  of a module before it. -/
  | clash {runtime : Runtime ClassName} {earlier between later : List Module}
      {first second : Module} {package typeName : String}
      (hresolve : configuration.resolve = .ok runtime)
      (hvalid : ∀ module ∈ modules, module.validate = .ok ())
      (hmodules : modules = earlier ++ first :: between ++ second :: later)
      (hdistinct : ((earlier ++ first :: between).map Module.entranceParts).Nodup)
      (hfirst : first.entranceParts = some (package, typeName))
      (hsecond : second.entranceParts = some (package, typeName)) :
      Refused configuration modules
        (.duplicateEntranceClass (package ++ "." ++ typeName) first.name second.name)

theorem renderModule_eq_error {module : Module} :
    renderModule configuration runtime module = .error failure ↔
      module.validate = .error failure := by
  cases hvalidate : module.validate with
  | error cause => simp [renderModule, hvalidate, bind, Except.bind]
  | ok _ =>
      obtain ⟨file, hfile⟩ := renderModule_succeeds configuration runtime hvalidate
      simp [hfile]

theorem Rendered.of_valid (configuration : Configuration) (runtime : Runtime ClassName)
    (hvalid : ∀ module ∈ modules, module.validate = .ok ()) :
    ∃ files, Rendered configuration runtime modules files := by
  obtain ⟨files, hfiles⟩ := mapM_succeeds fun module hmem =>
    renderModule_succeeds configuration runtime (hvalid module hmem)
  exact ⟨files, mapM_eq_ok.mp hfiles⟩

section Items

/-! The modules of a rendered batch with their files. -/

variable {items : List (Module × GeneratedFile)}
  (hparts : ∀ item ∈ items, item.1.entranceParts = some item.2.declared)

theorem Rendered.parts {files : List GeneratedFile}
    (h : Rendered configuration runtime modules files) :
    ∀ item ∈ modules.zip files, item.1.entranceParts = some item.2.declared :=
  fun _ hitem => (renderModule_eq_ok ((List.forall₂_iff_zip.mp h).2 hitem)).2.1

include hparts

theorem nodup_declared_iff :
    (items.map fun item => item.2.declared).Nodup ↔
      ((items.map Prod.fst).map Module.entranceParts).Nodup := by
  have hsome : (items.map Prod.fst).map Module.entranceParts
      = (items.map fun item => item.2.declared).map some := by
    rw [List.map_map, List.map_map]
    exact List.map_congr_left hparts
  rw [hsome]
  exact (List.nodup_map_iff fun _ _ => Option.some.inj).symm

/-- The first clash of the files is the first clash of the entrance classes. -/
theorem clash?_eq_some_iff :
    clash? [] items = some failure ↔
      ∃ earlier first between second later package typeName,
        items.map Prod.fst = earlier ++ first :: between ++ second :: later
          ∧ ((earlier ++ first :: between).map Module.entranceParts).Nodup
          ∧ first.entranceParts = some (package, typeName)
          ∧ second.entranceParts = some (package, typeName)
          ∧ failure
            = .duplicateEntranceClass (package ++ "." ++ typeName) first.name second.name := by
  rw [clash?_nil_eq_some]
  constructor
  · rintro ⟨earlier, first, file, between, second, file', later, rfl, hnodup, hsame, rfl⟩
    have hpassed : ∀ item ∈ earlier ++ (first, file) :: between,
        item.1.entranceParts = some item.2.declared := fun item hitem =>
      hparts item (List.mem_append_left _ hitem)
    have hfirst := hparts (first, file) (by simp)
    have hsecond := hparts (second, file') (by simp)
    rw [hsame] at hfirst
    rw [nodup_declared_iff hpassed] at hnodup
    exact ⟨earlier.map Prod.fst, first, between.map Prod.fst, second, later.map Prod.fst, _, _,
      by simp, by simpa using hnodup, hfirst, hsecond, rfl⟩
  · rintro ⟨earlier, first, between, second, later, package, typeName, hitems, hnodup, hfirst,
      hsecond, rfl⟩
    obtain ⟨passed, after, rfl, hpassed, hafter⟩ := List.map_eq_append_iff.mp hitems
    obtain ⟨before, from', rfl, rfl, hfrom⟩ := List.map_eq_append_iff.mp hpassed
    obtain ⟨⟨first, file⟩, between, rfl, rfl, rfl⟩ := List.map_eq_cons_iff.mp hfrom
    obtain ⟨⟨second, file'⟩, later, rfl, rfl, rfl⟩ := List.map_eq_cons_iff.mp hafter
    have hdeclared := (hparts (first, file) (by simp)).symm.trans hfirst
    have hdeclared' := (hparts (second, file') (by simp)).symm.trans hsecond
    obtain ⟨rfl, rfl⟩ := Prod.mk.inj (Option.some.inj hdeclared')
    refine ⟨before, first, file, between, second, file', later, rfl, ?_,
      Option.some.inj hdeclared, rfl⟩
    rw [nodup_declared_iff fun item hitem => hparts item (List.mem_append_left _ hitem)]
    simpa using hnodup

end Items

/-- A batch is not prepared exactly when the pass is refused, and then with the
failure that refuses it. -/
theorem prepare_eq_error :
    prepare configuration modules = .error failure ↔ Refused configuration modules failure := by
  constructor
  · intro h
    obtain hresolve | ⟨runtime, hresolve, h⟩ := bind_eq_error.mp h
    · exact .unresolved hresolve
    · obtain hrender | ⟨files, hfiles, h⟩ := bind_eq_error.mp h
      · obtain ⟨earlier, module, later, hmodules, hearlier, hfailure⟩ := mapM_eq_error.mp hrender
        refine .invalid hresolve hmodules (fun good hgood => ?_) (renderModule_eq_error.mp hfailure)
        obtain ⟨file, hfile⟩ := hearlier good hgood
        exact (renderModule_eq_ok hfile).1
      · have hrendered : Rendered configuration runtime modules files := mapM_eq_ok.mp hfiles
        split at h
        · next found hclash =>
            obtain rfl := Except.error.inj h
            obtain ⟨earlier, first, between, second, later, package, typeName, hmodules, hdistinct,
              hfirst, hsecond, rfl⟩ := (clash?_eq_some_iff hrendered.parts).mp hclash
            rw [List.map_fst_zip hrendered.length_eq.le] at hmodules
            exact .clash hresolve hrendered.valid hmodules hdistinct hfirst hsecond
        · cases h
  · intro h
    rw [prepare]
    cases h with
    | unresolved hfailure => exact bind_eq_error.mpr (.inl hfailure)
    | @invalid runtime earlier later module failure hresolve hmodules hearlier hfailure =>
        refine bind_eq_error.mpr (.inr ⟨runtime, hresolve, bind_eq_error.mpr (.inl ?_)⟩)
        exact mapM_eq_error.mpr ⟨earlier, module, later, hmodules,
          fun good hgood => renderModule_succeeds configuration runtime (hearlier good hgood),
          renderModule_eq_error.mpr hfailure⟩
    | @clash runtime earlier between later first second package typeName hresolve hvalid hmodules
        hdistinct hfirst hsecond =>
        obtain ⟨files, hrendered⟩ := Rendered.of_valid configuration runtime hvalid
        have hclash := (clash?_eq_some_iff hrendered.parts).mpr
          ⟨earlier, first, between, second, later, package, typeName,
            by rw [List.map_fst_zip hrendered.length_eq.le, hmodules], hdistinct, hfirst, hsecond,
            rfl⟩
        refine bind_eq_error.mpr (.inr ⟨runtime, hresolve, bind_eq_error.mpr
          (.inr ⟨files, mapM_eq_ok.mpr hrendered, ?_⟩)⟩)
        rw [hclash]
        rfl

/-- A pass is refused when the runtime cannot be resolved, when a module is not good
or when two modules generate one class, and only then. -/
theorem refused_iff :
    (∃ failure, Refused configuration modules failure) ↔
      (∃ failure, configuration.resolve = .error failure)
        ∨ (∃ module ∈ modules, ∃ failure, module.validate = .error failure)
        ∨ ¬ (modules.map fun module => (module.packageName?, module.simpleName)).Nodup := by
  have hprepare : (∃ failure, Refused configuration modules failure) ↔
      ¬ ∃ files, prepare configuration modules = .ok files := by
    simp only [← prepare_eq_error, fails_iff]
  rw [hprepare, prepare_succeeds_iff]
  simp only [fails_iff]
  constructor
  · intro h
    by_contra hnone
    push Not at hnone
    obtain ⟨hresolve, hvalid, hdistinct⟩ := hnone
    exact h ⟨hresolve, fun module hmodule => (hvalid module hmodule).choose_spec, hdistinct⟩
  · rintro (hresolve | ⟨module, hmodule, hvalid⟩ | hdistinct) ⟨hresolved, hgood, hnodup⟩
    · exact hresolve hresolved
    · exact hvalid ⟨(), hgood module hmodule⟩
    · exact hdistinct hnodup

/-- The files of a pass that is not refused: those of the modules, in their order. -/
structure Prepared (configuration : Configuration) (modules : List Module)
    (files : List GeneratedFile) : Prop where
  resolved : ∃ runtime, configuration.resolve = .ok runtime
  sources : List.Forall₂ (fun module file => generate configuration module = .ok file)
    modules files
  distinct : (files.map GeneratedFile.declared).Nodup

theorem prepare_eq_ok_iff {files : List GeneratedFile} :
    prepare configuration modules = .ok files ↔ Prepared configuration modules files := by
  have hgenerate : ∀ {runtime}, configuration.resolve = .ok runtime →
      renderModule configuration runtime = generate configuration := by
    intro runtime hresolve
    funext module
    rw [generate, hresolve]
    rfl
  constructor
  · intro h
    obtain ⟨runtime, hresolve, -⟩ := bind_eq_ok.mp h
    obtain ⟨hrendered, hdistinct⟩ := (prepare_eq_ok hresolve).mp h
    rw [Rendered, hgenerate hresolve] at hrendered
    exact ⟨⟨runtime, hresolve⟩, hrendered, hdistinct⟩
  · rintro ⟨⟨runtime, hresolve⟩, hsources, hdistinct⟩
    refine (prepare_eq_ok hresolve).mpr ⟨?_, hdistinct⟩
    rw [Rendered, hgenerate hresolve]
    exact hsources

/-! ## Handing out -/

section Emission

variable {σ : Type} (emitter : Emitter (StateM σ))

/-- Handed out one after the other, the files are all taken: each goes to its path. -/
inductive HandsOut : σ → List GeneratedFile → List Path → σ → Prop where
  | nil {state : σ} : HandsOut state [] [] state
  | cons {before between after : σ} {file : GeneratedFile} {path : Path}
      {rest : List GeneratedFile} {paths : List Path}
      (hfile : emitter.call file before = (.ok path, between))
      (hrest : HandsOut between rest paths after) :
      HandsOut before (file :: rest) (path :: paths) after

/-- What comes of handing files out. -/
inductive Emission (before : σ) (files : List GeneratedFile) :
    Except Failure (List Path) → σ → Prop where
  | complete {paths : List Path} {after : σ} (hall : HandsOut emitter before files paths after) :
      Emission before files (.ok paths) after
  /-- The files in front of one that is not taken, and no others, have been taken. -/
  | stopped {taken left : List GeneratedFile} {refused : GeneratedFile} {paths : List Path}
      {between after : σ} {failure : Failure} (hfiles : files = taken ++ refused :: left)
      (htaken : HandsOut emitter before taken paths between)
      (hrefused : emitter.call refused between = (.error failure, after)) :
      Emission before files (.error failure) after

variable {emitter} {before after : σ} {files : List GeneratedFile}

/-- Handing files out is a complete emission or one that stopped. -/
theorem emission_of_run {result : Except Failure (List Path)}
    (h : (emitter.emitAll files).run before = (result, after)) :
    Emission emitter before files result after := by
  induction files generalizing before result with
  | nil =>
      obtain ⟨rfl, rfl⟩ := Prod.mk.inj h
      exact .complete .nil
  | cons file rest ih =>
      rcases hcall : emitter.call file before with ⟨answer, between⟩
      cases answer with
      | error failure =>
          rw [emitAll_cons_of_error hcall] at h
          obtain ⟨rfl, rfl⟩ := Prod.mk.inj h
          exact .stopped (List.nil_append _).symm .nil hcall
      | ok path =>
          rw [emitAll_cons_of_ok hcall] at h
          rcases hrest : (emitter.emitAll rest).run between with ⟨more, last⟩
          rw [hrest] at h
          cases more with
          | error failure =>
              obtain ⟨rfl, rfl⟩ := Prod.mk.inj h
              cases ih hrest with
              | stopped hfiles htaken hrefused =>
                  exact .stopped (by rw [hfiles, List.cons_append]) (.cons hcall htaken) hrefused
          | ok paths =>
              obtain ⟨rfl, rfl⟩ := Prod.mk.inj h
              cases ih hrest with
              | complete hall => exact .complete (.cons hcall hall)

theorem HandsOut.run_append {between : σ} {taken left : List GeneratedFile} {paths : List Path}
    (h : HandsOut emitter before taken paths between) :
    (emitter.emitAll (taken ++ left)).run before
      = match (emitter.emitAll left).run between with
        | (.ok more, after) => (.ok (paths ++ more), after)
        | (.error failure, after) => (.error failure, after) := by
  induction h with
  | @nil state =>
      rw [List.nil_append]
      rcases (emitter.emitAll left).run state with ⟨failure | paths, after⟩ <;> rfl
  | cons hfile hrest ih =>
      rw [List.cons_append, emitAll_cons_of_ok hfile, ih]
      rcases (emitter.emitAll left).run _ with ⟨failure | paths, after⟩ <;> rfl

theorem emitAll_run {result : Except Failure (List Path)} :
    (emitter.emitAll files).run before = (result, after) ↔
      Emission emitter before files result after := by
  refine ⟨emission_of_run, fun h => ?_⟩
  cases h with
  | complete hall =>
      rw [← List.append_nil files, hall.run_append]
      exact Prod.ext (congrArg Except.ok (List.append_nil _)) rfl
  | stopped hfiles htaken hrefused =>
      rw [hfiles, htaken.run_append, emitAll_cons_of_error hrefused]

end Emission

/-! ## The pass -/

/-- What comes of a pass: it is refused and the emitter is as it was, or the files of
the modules are handed out. -/
inductive Pass {σ : Type} (emitter : Emitter (StateM σ)) (configuration : Configuration)
    (modules : List Module) (before : σ) : Except Failure (List Path) → σ → Prop where
  | refused {failure : Failure} (hrefused : Refused configuration modules failure) :
      Pass emitter configuration modules before (.error failure) before
  | handedOut {files : List GeneratedFile} {result : Except Failure (List Path)} {after : σ}
      (hfiles : Prepared configuration modules files)
      (hemission : Emission emitter before files result after) :
      Pass emitter configuration modules before result after

theorem generateAll_of_refused (hrefused : Refused configuration modules failure)
    {m : Type → Type} [Monad m] (emitter : Emitter m) :
    emitter.generateAll configuration modules = pure (.error failure) := by
  rw [Emitter.generateAll, prepare_eq_error.mpr hrefused]

theorem generateAll_of_prepared {files : List GeneratedFile}
    (hfiles : Prepared configuration modules files) {m : Type → Type} [Monad m]
    (emitter : Emitter m) :
    emitter.generateAll configuration modules = emitter.emitAll files := by
  rw [Emitter.generateAll, prepare_eq_ok_iff.mpr hfiles]

theorem generateAll_run {σ : Type} {emitter : Emitter (StateM σ)} {before after : σ}
    {result : Except Failure (List Path)} :
    (emitter.generateAll configuration modules).run before = (result, after) ↔
      Pass emitter configuration modules before result after := by
  constructor
  · intro h
    cases hprepare : prepare configuration modules with
    | error failure =>
        have hrefused := prepare_eq_error.mp hprepare
        rw [generateAll_of_refused hrefused] at h
        obtain ⟨rfl, rfl⟩ := Prod.mk.inj h
        exact .refused hrefused
    | ok files =>
        have hfiles := prepare_eq_ok_iff.mp hprepare
        rw [generateAll_of_prepared hfiles] at h
        exact .handedOut hfiles (emitAll_run.mp h)
  · intro h
    cases h with
    | refused hrefused =>
        rw [generateAll_of_refused hrefused]
        rfl
    | handedOut hfiles hemission =>
        rw [generateAll_of_prepared hfiles]
        exact emitAll_run.mpr hemission

/-- A pass is refused exactly when the runtime cannot be resolved, a module is not
good or two modules generate one class; it fails with the first of these, and the
emitter is never asked. Any other pass hands the files out in the order of the
modules, up to the first that is not taken. -/
theorem generateAll_outcome (configuration : Configuration) (modules : List Module) :
    ((∃ failure, Refused configuration modules failure) ↔
        (∃ failure, configuration.resolve = .error failure)
          ∨ (∃ module ∈ modules, ∃ failure, module.validate = .error failure)
          ∨ ¬ (modules.map fun module => (module.packageName?, module.simpleName)).Nodup)
      ∧ (∀ failure, Refused configuration modules failure →
          ∀ (m : Type → Type) [Monad m] (emitter : Emitter m),
            emitter.generateAll configuration modules = pure (.error failure))
      ∧ ∀ (σ : Type) (emitter : Emitter (StateM σ)) (before after : σ)
          (result : Except Failure (List Path)),
          (emitter.generateAll configuration modules).run before = (result, after) ↔
            Pass emitter configuration modules before result after :=
  ⟨refused_iff, fun _ hrefused _ _ => generateAll_of_refused hrefused,
    fun _ _ _ _ _ => generateAll_run⟩

/-- The sample under another name. -/
def namesake (name : String) : Module := { Module.sample with name }

/-- Of three modules with one class the first two are named, and a module without a
name is reported although two modules before it have one class. -/
theorem generateAll_outcome_namesakes :
    ∀ (m : Type → Type) [Monad m] (emitter : Emitter m),
      emitter.generateAll .standard [Module.sample, namesake "second", namesake "third"]
          = pure (.error (.duplicateEntranceClass "com.example.GreeterModule" "greeter" "second"))
        ∧ emitter.generateAll .standard [Module.sample, namesake "second", namesake " "]
          = pure (.error (.emptyModuleName "com.example.GreeterModule")) := by
  intro m _ emitter
  obtain ⟨runtime, hresolve⟩ := Configuration.standard_resolves
  constructor
  · refine (generateAll_outcome _ _).2.1 _ ?_ m emitter
    have hvalid : ∀ module ∈ [Module.sample, namesake "second", namesake "third"],
        module.validate = .ok () := by decide +kernel
    have hmodules : [Module.sample, namesake "second", namesake "third"]
        = [] ++ Module.sample :: [] ++ namesake "second" :: [namesake "third"] := rfl
    have hentrance : ∀ module ∈ [Module.sample, namesake "second"],
        module.entranceParts = some ("com.example", "GreeterModule") := by decide +kernel
    exact .clash hresolve hvalid hmodules (by decide +kernel) (hentrance _ (by simp))
      (hentrance _ (by simp))
  · refine (generateAll_outcome _ _).2.1 _ ?_ m emitter
    have hvalid : ∀ module ∈ [Module.sample, namesake "second"], module.validate = .ok () := by
      decide +kernel
    have hmodules : [Module.sample, namesake "second", namesake " "]
        = [Module.sample, namesake "second"] ++ namesake " " :: [] := rfl
    exact .invalid hresolve hmodules hvalid (by decide +kernel)

end ModuleContainers
