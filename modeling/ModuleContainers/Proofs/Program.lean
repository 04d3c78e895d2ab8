import ModuleContainers.Program
import ModuleContainers.Proofs.Files.FileSystem
import ModuleContainers.Proofs.Generation.Emitters

/-!
# What a run changes

A run first reads what it needs and prepares all files, and only then writes. What it
will write can be said beforehand, from the files as they are (`Session.plan`). While
it reads, nothing but news is reported (`Reads`), so a run that fails before the first
file is written has changed nothing; a dry run never changes a file. A run that
succeeds has put the files of its plan below the output directory and has made
directories on the way to them; all else is as it was (`Delivered`, `run_frame`).
-/

namespace ModuleContainers

open ModuleContainers.CommandLine (Options Request)
open ModuleContainers.Files (FileSystem FileTree Naming Path WriteError)
open ModuleContainers.Files.FileTree (Grown Writing)
open ModuleContainers.Metadata (Module)
open Outcome (run_bind_of_error run_bind_of_ok)

variable {session : Session} {options : Options} {coloured : Bool} {failure : Failure}
  {files : List GeneratedFile} {α β : Type}

/-! ## The plan -/

namespace Session

/-- The files as they are. What is done with them leaves no trace. -/
def snapshot (session : Session) : FileSystem Id :=
  (FileTree.fileSystem session.current session.naming).map fun _ step =>
    (step.run session.files).1

/-- The modules of an input. -/
def modulesAt (session : Session) (path : Path) : Except Failure (List Module) :=
  Id.run (loadModules session.snapshot path)

/-- What a run generates, or why it generates nothing. -/
def plan (session : Session) (options : Options) : Except Failure (List GeneratedFile) := do
  let configuration ← Id.run (Program.settings session.snapshot options).run
  let loaded ← options.inputs.mapM session.modulesAt
  prepare configuration loaded.flatten

end Session

/-! ## Steps that only report -/

/-- The step gives the result, and it only reports something, whatever was reported before. The
result depends on the files alone, so it can be known before the run. -/
def Reads (session : Session) (step : ExceptT Failure (StateM Session) α)
    (result : Except Failure α) : Prop :=
  ∀ reported, ∃ reported', step.run.run { session with reported := reported }
    = (result, { session with reported := reported' })

namespace Reads

theorem pure (session : Session) (a : α) : Reads session (pure a) (.ok a) :=
  fun reported => ⟨reported, rfl⟩

theorem bind_ok {step : ExceptT Failure (StateM Session) α} {a : α}
    {next : α → ExceptT Failure (StateM Session) β} {result : Except Failure β}
    (h : Reads session step (.ok a)) (hnext : Reads session (next a) result) :
    Reads session (step >>= next) result := by
  intro reported
  obtain ⟨between, hstep⟩ := h reported
  obtain ⟨last, hlast⟩ := hnext between
  exact ⟨last, (run_bind_of_ok hstep).trans hlast⟩

/-- Steps one after the other. A failure ends them both in the run and in the result. -/
theorem bind {step : ExceptT Failure (StateM Session) α} {result : Except Failure α}
    {next : α → ExceptT Failure (StateM Session) β} {rest : α → Except Failure β}
    (h : Reads session step result) (hnext : ∀ a, Reads session (next a) (rest a)) :
    Reads session (step >>= next) (result >>= rest) := by
  cases result with
  | error failure =>
      intro reported
      obtain ⟨between, hstep⟩ := h reported
      exact ⟨between, run_bind_of_error hstep⟩
  | ok a => exact h.bind_ok (hnext a)

/-- A step for each of the paths, by induction on the list; what earlier steps have reported
does not matter to later ones. -/
theorem mapM {f : Path → ExceptT Failure (StateM Session) α} {g : Path → Except Failure α}
    (h : ∀ path, Reads session (f path) (g path)) (paths : List Path) :
    Reads session (paths.mapM f) (paths.mapM g) := by
  induction paths with
  | nil => exact .pure session []
  | cons path rest ih =>
      rw [List.mapM_cons, List.mapM_cons]
      exact (h path).bind fun a => ih.bind fun as => .pure session (a :: as)

end Reads

theorem run_readText (session : Session) (path : Path) :
    (session.fileSystem.readText path).run session
      = (session.files.readText session.current path, session) := rfl

/-- Modules are read from one file, if its name tells the format, so the session reads them as
its snapshot does. -/
theorem run_loadModules (session : Session) (path : Path) :
    (loadModules session.fileSystem path).run session = (session.modulesAt path, session) := by
  rw [Session.modulesAt, loadModules, loadModules]
  cases DocumentFormat.ofPath? path with
  | none => rfl
  | some format =>
      simp only [StateT.run_bind, run_readText]
      have hsnapshot : session.snapshot.readText path
          = session.files.readText session.current path := rfl
      rw [hsnapshot]
      cases session.files.readText session.current path <;> rfl

/-- The same for the configuration. -/
theorem run_loadConfiguration (session : Session) (path : Path) :
    (loadConfiguration session.fileSystem path).run session
      = (Id.run (loadConfiguration session.snapshot path), session) := by
  have hsnapshot : session.snapshot.readText path
      = session.files.readText session.current path := rfl
  rw [loadConfiguration, loadConfiguration, hsnapshot]
  simp only [StateT.run_bind, run_readText]
  cases session.files.readText session.current path <;> rfl

/-- With much to say, an input is reported, and this is the only difference. -/
theorem reads_readInput (session : Session) (coloured verbose : Bool) (path : Path) :
    Reads session (Program.readInput session.fileSystem (Session.console coloured) verbose path)
      (session.modulesAt path) := by
  have hload : Reads session (ExceptT.mk (loadModules session.fileSystem path))
      (session.modulesAt path) :=
    fun reported => ⟨reported, run_loadModules { session with reported := reported } path⟩
  -- The result is written as two steps too, so that steps and results are bound alike.
  rw [← bind_pure (session.modulesAt path), Program.readInput]
  refine hload.bind fun modules => ?_
  cases verbose with
  | false => exact .pure session modules
  | true => exact fun reported => ⟨_, rfl⟩

/-- In the snapshot, steps are values. -/
theorem run_bind_id (step : ExceptT Failure Id α) (next : α → ExceptT Failure Id β) :
    Id.run (step >>= next).run
      = (Id.run step.run >>= fun a => Id.run (next a).run : Except Failure β) := by
  rw [ExceptT.run_bind, Id.run_bind]
  cases Id.run step.run <;> rfl

/-- Options change the configuration after it was read. -/
theorem reads_settings (session : Session) (options : Options) :
    Reads session (Program.settings session.fileSystem options)
      (Id.run (Program.settings session.snapshot options).run) := by
  rw [Program.settings, Program.settings]
  cases options.config? with
  | none => exact .pure session _
  | some path =>
      have hload : Reads session (ExceptT.mk (loadConfiguration session.fileSystem path))
          (Id.run (loadConfiguration session.snapshot path)) := fun reported =>
        ⟨reported, run_loadConfiguration { session with reported := reported } path⟩
      simp only [run_bind_id]
      exact hload.bind fun configuration => .pure session _

/-! ## The run after the reading -/

/-- What a run that started in the session does with the files of its plan. -/
def Session.carryOut (session : Session) (coloured : Bool) (options : Options)
    (files : List GeneratedFile) : ExceptT Failure (StateM Session) Unit := do
  let console := Session.console coloured
  let emitter :=
    if options.dryRun then Emitter.dryRun console.print
    else Emitter.directory session.fileSystem options.output
  let written ← ExceptT.mk (emitter.emitAll files)
  if options.dryRun then
    console.report (rehearsedMessage console.coloured written.length)
  else
    for path in written do
      console.report (wroteMessage console.coloured path)
    console.report (generatedMessage console.coloured written.length options.output)

/-- A run fails while it reads, or it has a plan and carries it out. -/
theorem generate_run (session : Session) (coloured : Bool) (options : Options) :
    ∃ reported,
      (Program.generate session.fileSystem (Session.console coloured) options).run.run session
        = match session.plan options with
          | .error failure => (.error failure, { session with reported := reported })
          | .ok files =>
            (session.carryOut coloured options files).run.run
              { session with reported := reported } := by
  obtain ⟨first, hsettings⟩ := reads_settings session options session.reported
  rw [Program.generate, Session.plan]
  cases hconfiguration : Id.run (Program.settings session.snapshot options).run with
  | error failure =>
      rw [hconfiguration] at hsettings
      exact ⟨first, run_bind_of_error hsettings⟩
  | ok configuration =>
      rw [hconfiguration] at hsettings
      obtain ⟨second, hinputs⟩ := Reads.mapM
        (reads_readInput session coloured (0 < options.verbosity)) options.inputs first
      refine ⟨second, (run_bind_of_ok hsettings).trans ?_⟩
      cases hloaded : options.inputs.mapM session.modulesAt with
      | error failure =>
          rw [hloaded] at hinputs
          exact run_bind_of_error hinputs
      | ok loaded =>
          rw [hloaded] at hinputs
          refine (run_bind_of_ok hinputs).trans ?_
          simp only [Emitter.generateAll]
          change _ = match prepare configuration loaded.flatten with
            | .error failure => _
            | .ok files => _
          cases prepare configuration loaded.flatten with
          | error failure => rfl
          | ok files => rfl

/-! ## Reporting -/

theorem reads_report (session : Session) (coloured : Bool) (text : String) :
    Reads session (ExceptT.lift ((Session.console coloured).report text)) (.ok ()) :=
  fun reported => ⟨reported ++ text, rfl⟩

theorem reads_reports (session : Session) (coloured : Bool) (message : Path → String)
    (paths : List Path) :
    Reads session (forIn paths PUnit.unit fun path _ => do
      ExceptT.lift ((Session.console coloured).report (message path))
      pure (.yield PUnit.unit)) (.ok ()) := by
  induction paths with
  | nil => exact .pure session ()
  | cons path rest ih =>
      rw [List.forIn_cons]
      have hfirst : Reads session (do
          ExceptT.lift ((Session.console coloured).report (message path))
          pure (.yield PUnit.unit)) (.ok (ForInStep.yield PUnit.unit)) :=
        (reads_report session coloured (message path)).bind_ok (.pure session _)
      exact hfirst.bind_ok ih

theorem reads_news (session : Session) (coloured : Bool) (output : Path) (paths : List Path) :
    Reads session (do
      for path in paths do
        (Session.console coloured).report (wroteMessage coloured path)
      (Session.console coloured).report (generatedMessage coloured paths.length output)) (.ok ()) :=
  Reads.bind_ok (a := PUnit.unit) (reads_reports session coloured (wroteMessage coloured) paths)
    (reads_report session coloured (generatedMessage coloured paths.length output))

/-! ## A dry run -/

theorem run_announce (coloured : Bool) (text : GeneratedFile → String)
    (files : List GeneratedFile) (session : Session) :
    ∃ printed, (files.forM fun file => (Session.console coloured).print (text file)).run session
      = ((), { session with printed := printed }) := by
  induction files generalizing session with
  | nil => exact ⟨session.printed, rfl⟩
  | cons file rest ih => exact ih { session with printed := session.printed ++ text file }

/-- A dry run prints and reports; the files of the session are not touched. -/
theorem carryOut_dryRun (origin : Session) (hdry : options.dryRun = true) (coloured : Bool)
    (files : List GeneratedFile) (session : Session) :
    ∃ printed reported, (origin.carryOut coloured options files).run.run session
      = (.ok (), { session with printed := printed, reported := reported }) := by
  obtain ⟨printed, hprinted⟩ := run_announce coloured
    (fun file => Emitter.announcement file.path file.source) files session
  have hemit : ((Emitter.dryRun (Session.console coloured).print).emitAll files).run session
      = (.ok (files.map GeneratedFile.path), { session with printed := printed }) := by
    rw [emitAll_dryRun, StateT.run_bind, hprinted]
    rfl
  obtain ⟨reported, hreported⟩ := reads_report { session with printed := printed } coloured
    (rehearsedMessage coloured (files.map GeneratedFile.path).length) session.reported
  refine ⟨printed, reported, ?_⟩
  rw [Session.carryOut]
  simp only [hdry, if_true]
  exact (run_bind_of_ok hemit).trans hreported

/-! ## Delivering -/

/-- The files stand below the output directory, and otherwise only directories have come
to stand on the way to them, where nothing was. -/
structure Delivered (current : List String) (output : Path) (files : List GeneratedFile)
    (before after : FileTree) : Prop where
  present : ∀ file ∈ files, after.node? (output.target current ++ file.segments)
    = some (.file file.source.toUTF8)
  frame : ∀ place, after.node? place ≠ before.node? place →
    (∃ file ∈ files, place = output.target current ++ file.segments)
      ∨ before.node? place = none ∧ after.node? place = some .directory
        ∧ ∃ file ∈ files, (output.join file.path).directory.Passes current place

namespace Delivered

variable {current : List String} {output : Path} {before between after : FileTree}
  {file : GeneratedFile}

theorem nil (current : List String) (output : Path) (tree : FileTree) :
    Delivered current output [] tree tree where
  present _ h := by cases h
  frame _ h := absurd rfl h

/-- A file that is written, and then others. They go elsewhere, for they declare other
classes. -/
theorem cons (hplaced : file.WellPlaced) (hnew : ∀ other ∈ files, other.declared ≠ file.declared)
    (h : Writing current (output.join file.path) file.source.toUTF8 before (.ok ()) between)
    (hrest : Delivered current output files between after) :
    Delivered current output (file :: files) before after := by
  have hwritten := h.target
  rw [hplaced.target_join] at hwritten
  constructor
  · intro other hother
    rcases List.mem_cons.mp hother with rfl | hother
    · -- The files that are written later go elsewhere.
      by_contra hchanged
      rw [← hwritten] at hchanged
      rcases hrest.frame _ hchanged with ⟨next, hnext, hsame⟩ | ⟨hnone, -, -⟩
      · have hsegments := List.append_cancel_left hsame
        exact hnew next hnext (GeneratedFile.declared_eq_of_segments hsegments).symm
      · rw [hwritten] at hnone
        cases hnone
    · exact hrest.present other hother
  · intro place hchanged
    -- Either the later files left the place alone, or this one had left it as it was before.
    by_cases hlater : after.node? place = between.node? place
    · rw [hlater] at hchanged ⊢
      rcases h.changed hchanged with hplace | ⟨hnone, hdirectory, hpasses⟩
      · exact .inl ⟨file, List.mem_cons_self .., hplace.trans (hplaced.target_join ..)⟩
      · exact .inr ⟨hnone, hdirectory, file, List.mem_cons_self .., hpasses⟩
    · rcases hrest.frame place hlater with ⟨other, hother, hplace⟩ |
        ⟨hnone, hdirectory, other, hother, hpasses⟩
      · exact .inl ⟨other, List.mem_cons_of_mem _ hother, hplace⟩
      · exact .inr ⟨h.missing hnone, hdirectory, other, List.mem_cons_of_mem _ hother, hpasses⟩

end Delivered

/-- A session carries out what its files alone would. -/
theorem carries_onFiles : FileSystem.Carries Session.onFiles where
  pure _ := rfl
  bind _ _ := rfl

/-- Writing in a session is writing in its tree, with the rest of the session carried along. -/
theorem run_writeAtomic_session {current : List String} {naming : Naming} {path : Path}
    {text : String} {tree : FileTree} {result : Except WriteError Unit}
    (h : session.files.writeAtomic current naming path text = (tree, result)) :
    (((FileTree.fileSystem current naming).map Session.onFiles).writeAtomic path text).run session
      = (result, { session with files := tree }) := by
  rw [carries_onFiles.writeAtomic_map, Session.onFiles]
  simp only [StateT.run_bind, StateT.run_get, pure_bind, run_writeAtomic h]
  rfl

/-- Files that are all taken have been delivered, and only the files of the session have
changed. -/
theorem delivered_of_handsOut {origin : Session} {output : Path} {paths : List Path}
    {after : Session}
    (h : HandsOut (Emitter.directory origin.fileSystem output) session files paths after)
    (hplaced : ∀ file ∈ files, file.WellPlaced)
    (hdistinct : (files.map GeneratedFile.declared).Nodup) :
    after = { session with files := after.files }
      ∧ Delivered origin.current output files session.files after.files := by
  induction h with
  | nil => exact ⟨rfl, .nil ..⟩
  | @cons before between after file path rest paths hcall hrest ih =>
      obtain ⟨hfile, hplaced⟩ := List.forall_mem_cons.mp hplaced
      obtain ⟨hnew, hdistinct⟩ := List.nodup_cons.mp hdistinct
      rcases hwrite : before.files.writeAtomic origin.current origin.naming
        (output.join file.path) file.source with ⟨tree, error | ⟨⟩⟩
      · rw [Session.fileSystem, call_directory (run_writeAtomic_session hwrite)] at hcall
        cases hcall
      · rw [Session.fileSystem, call_directory (run_writeAtomic_session hwrite)] at hcall
        obtain ⟨-, rfl⟩ := Prod.mk.inj hcall
        obtain ⟨hafter, hdelivered⟩ := ih hplaced hdistinct
        refine ⟨hafter, hdelivered.cons hfile (fun other hother heq => hnew ?_) ?_⟩
        · exact heq ▸ List.mem_map_of_mem hother
        · exact hfile.writing hwrite

/-- The directory refuses a file for one reason only. -/
theorem unwritable_of_call {origin : Session} {output : Path} {file : GeneratedFile}
    {after : Session}
    (h : (Emitter.directory origin.fileSystem output).call file session
      = (.error failure, after)) : ∃ error, failure = .unwritable error := by
  rcases hwrite : session.files.writeAtomic origin.current origin.naming (output.join file.path)
    file.source with ⟨tree, error | ⟨⟩⟩
  · rw [Session.fileSystem, call_directory (run_writeAtomic_session hwrite)] at h
    obtain ⟨hfailure, -⟩ := Prod.mk.inj h
    exact ⟨error, (Except.error.inj hfailure).symm⟩
  · rw [Session.fileSystem, call_directory (run_writeAtomic_session hwrite)] at h
    cases h

/-- When all files have been handed out, there is only news left to report. -/
theorem carryOut_of_handsOut {origin : Session} (hdry : options.dryRun = false) (coloured : Bool)
    {paths : List Path} {after : Session}
    (h : HandsOut (Emitter.directory origin.fileSystem options.output) session files paths after) :
    ∃ reported, (origin.carryOut coloured options files).run.run session
      = (.ok (), { after with reported := reported }) := by
  obtain ⟨reported, hreported⟩ := reads_news after coloured options.output paths after.reported
  refine ⟨reported, ?_⟩
  rw [Session.carryOut]
  simp only [hdry, Bool.false_eq_true, if_false]
  exact (run_bind_of_ok (emitAll_run.mpr (.complete h))).trans hreported

/-- With the plan made, nothing but writing fails. -/
theorem carryOut_write (origin : Session) (hdry : options.dryRun = false) (coloured : Bool)
    (hplaced : ∀ file ∈ files, file.WellPlaced)
    (hdistinct : (files.map GeneratedFile.declared).Nodup) (session : Session) :
    (∃ error after, (origin.carryOut coloured options files).run.run session
        = (.error (.unwritable error), after))
      ∨ ∃ tree reported, (origin.carryOut coloured options files).run.run session
          = (.ok (), { session with files := tree, reported := reported })
        ∧ Delivered origin.current options.output files session.files tree := by
  rcases hemit : ((Emitter.directory origin.fileSystem options.output).emitAll files).run session
    with ⟨result, between⟩
  cases emitAll_run.mp hemit with
  | stopped hfiles htaken hrefused =>
      obtain ⟨error, rfl⟩ := unwritable_of_call hrefused
      refine .inl ⟨error, between, ?_⟩
      rw [Session.carryOut]
      simp only [hdry, Bool.false_eq_true, if_false]
      exact run_bind_of_error hemit
  | complete hall =>
      obtain ⟨hbetween, hdelivered⟩ := delivered_of_handsOut hall hplaced hdistinct
      obtain ⟨reported, hcarry⟩ := carryOut_of_handsOut hdry coloured hall
      rw [hbetween] at hcarry
      exact .inr ⟨between.files, reported, hcarry, hdelivered⟩

/-- A session writes what its files alone would take. -/
theorem handsOut_session (session : Session) {output : Path} {paths : List Path}
    {tree after : FileTree}
    (h : HandsOut (Emitter.directory (FileTree.fileSystem session.current session.naming) output)
      tree files paths after) :
    HandsOut (Emitter.directory session.fileSystem output) { session with files := tree } files
      paths { session with files := after } := by
  induction h with
  | nil => exact .nil
  | @cons before between after file path rest paths hcall hrest ih =>
      rcases hwrite : before.writeAtomic session.current session.naming (output.join file.path)
        file.source with ⟨tree, result⟩
      rw [call_directory (run_writeAtomic hwrite)] at hcall
      obtain ⟨hpath, rfl⟩ := Prod.mk.inj hcall
      have hrun : (session.fileSystem.writeAtomic (output.join file.path) file.source).run
          { session with files := before } = (result, { session with files := tree }) :=
        run_writeAtomic_session hwrite
      refine .cons ?_ ih
      rw [call_directory hrun, hpath]

/-! ## The whole run -/

/-- What comes of a run that is asked to generate. -/
inductive Running (session : Session) (options : Options) : Outcome → Session → Prop where
  | refused {failure : Failure} (reported : String)
      (hplan : session.plan options = .error failure) :
      Running session options (.failed failure) { session with reported := reported }
  | shown {files : List GeneratedFile} (printed reported : String)
      (hdry : options.dryRun = true) (hplan : session.plan options = .ok files) :
      Running session options .success { session with printed := printed, reported := reported }
  | stopped {files : List GeneratedFile} (error : WriteError) (after : Session)
      (hdry : options.dryRun = false) (hplan : session.plan options = .ok files) :
      Running session options (.failed (.unwritable error)) after
  | written {files : List GeneratedFile} {tree : FileTree} (reported : String)
      (hdry : options.dryRun = false) (hplan : session.plan options = .ok files)
      (hdelivered : Delivered session.current options.output files session.files tree) :
      Running session options .success { session with files := tree, reported := reported }

/-- A plan is what some configuration and some modules are prepared as. -/
theorem Session.prepared_of_plan (h : session.plan options = .ok files) :
    ∃ configuration modules, Prepared configuration modules files := by
  obtain ⟨configuration, -, h⟩ := Outcome.bind_eq_ok.mp h
  obtain ⟨loaded, -, hprepare⟩ := Outcome.bind_eq_ok.mp h
  exact ⟨configuration, loaded.flatten, prepare_eq_ok_iff.mp hprepare⟩

section Run

variable {arguments : List String} {after : Session}
  (harguments : Request.ofArguments? arguments = some (.generate options))

include harguments

theorem run_of_ok
    (h : (Program.generate session.fileSystem (Session.console coloured) options).run.run session
      = (.ok (), after)) : session.run coloured arguments = (.success, after) := by
  rw [Session.run, Program.run, harguments]
  simp only [StateT.run_bind, h]
  rfl

theorem run_of_error
    (h : (Program.generate session.fileSystem (Session.console coloured) options).run.run session
      = (.error failure, after)) : session.run coloured arguments = (.failed failure, after) := by
  rw [Session.run, Program.run, harguments]
  simp only [StateT.run_bind, h]
  rfl

/-- That is all that can come of it. -/
theorem running_of_run {outcome : Outcome}
    (hrun : session.run coloured arguments = (outcome, after)) :
    Running session options outcome after := by
  obtain ⟨reported, hgenerate⟩ := generate_run session coloured options
  cases hplan : session.plan options with
  | error failure =>
      rw [hplan] at hgenerate
      obtain ⟨rfl, rfl⟩ := Prod.mk.inj ((run_of_error harguments hgenerate).symm.trans hrun)
      exact .refused reported hplan
  | ok files =>
      rw [hplan] at hgenerate
      obtain ⟨configuration, modules, hfiles⟩ := Session.prepared_of_plan hplan
      cases hdry : options.dryRun with
      | true =>
          obtain ⟨printed, news, hcarry⟩ := carryOut_dryRun session hdry coloured files
            { session with reported := reported }
          have hok := run_of_ok harguments (hgenerate.trans hcarry)
          obtain ⟨rfl, rfl⟩ := Prod.mk.inj (hok.symm.trans hrun)
          exact .shown printed news hdry hplan
      | false =>
          rcases carryOut_write session hdry coloured hfiles.wellPlaced hfiles.distinct
            { session with reported := reported } with
            ⟨error, last, hcarry⟩ | ⟨tree, news, hcarry, hdelivered⟩
          · have herror := run_of_error harguments (hgenerate.trans hcarry)
            obtain ⟨rfl, rfl⟩ := Prod.mk.inj (herror.symm.trans hrun)
            exact .stopped error last hdry hplan
          · have hok := run_of_ok harguments (hgenerate.trans hcarry)
            obtain ⟨rfl, rfl⟩ := Prod.mk.inj (hok.symm.trans hrun)
            exact .written news hdry hplan hdelivered

/-- A run without a plan fails and has changed nothing; a dry run never changes a file; a
run that fails otherwise than by writing has changed nothing; and a run that succeeds has
delivered the files of its plan. -/
theorem run_frame {outcome : Outcome}
    (hrun : session.run coloured arguments = (outcome, after)) :
    (∀ failure, session.plan options = .error failure →
        outcome = .failed failure ∧ after.files = session.files ∧ after.printed = session.printed)
      ∧ (options.dryRun = true → after.files = session.files)
      ∧ (options.dryRun = false → ∀ failure, outcome = .failed failure →
          (∀ error, failure ≠ .unwritable error) →
          after.files = session.files ∧ after.printed = session.printed)
      ∧ (options.dryRun = false → outcome = .success → ∃ files, session.plan options = .ok files
          ∧ Delivered session.current options.output files session.files after.files) := by
  cases running_of_run harguments hrun with
  | refused reported hplan =>
      refine ⟨fun failure hfailure => ⟨?_, rfl, rfl⟩, fun _ => rfl, fun _ _ _ _ => ⟨rfl, rfl⟩, ?_⟩
      · rw [hplan] at hfailure
        exact congrArg Outcome.failed (Except.error.inj hfailure)
      · intro _ hsuccess
        cases hsuccess
  | shown printed reported hdry hplan => simp [hdry, hplan]
  | stopped error after hdry hplan => simp [hdry, hplan]
  | written reported hdry hplan hdelivered => simp [hdry, hplan, hdelivered]

/-- With a plan, an empty directory can be written to. -/
theorem run_into_empty {base : List String} (hdry : options.dryRun = false)
    (hplan : session.plan options = .ok files)
    (hopens : FileTree.Opens session.current session.files options.output base)
    (hempty : session.files.get? base = some .empty) (coloured : Bool) :
    ∃ after, session.run coloured arguments = (.success, after) := by
  obtain ⟨configuration, modules, hfiles⟩ := Session.prepared_of_plan hplan
  obtain ⟨reported, hgenerate⟩ := generate_run session coloured options
  rw [hplan] at hgenerate
  have hnone : Mirrors (Holds []) base session.files session.files :=
    holds_nil ▸ Mirrors.of_empty hempty
  obtain ⟨tree, hall, -, -⟩ :=
    handsOut_directory hopens hnone hfiles.wellPlaced hfiles.distinct
  have hsession : HandsOut (Emitter.directory session.fileSystem options.output)
      { session with reported := reported } files _
      { session with files := tree, reported := reported } :=
    handsOut_session { session with reported := reported } hall
  obtain ⟨news, hcarry⟩ := carryOut_of_handsOut hdry coloured hsession
  exact ⟨_, run_of_ok harguments (hgenerate.trans hcarry)⟩

end Run

/-- A small module in a document, and an empty directory. -/
def workshop : Session where
  files := .directory
    [("core.json", .file "\x7b\"name\":\"core\",\"entrance_class\":\"com.example.Core\"\x7d".toUTF8),
      ("out", .empty)]

def workshopOptions : Options where
  inputs := [⟨"core.json"⟩]
  output := ⟨"out"⟩
  config? := none
  indent? := none
  dryRun := false
  verbosity := 0

/-- The module that the document describes. -/
def workshopModule : Module where
  name := "core"
  entranceClass := "com.example.Core"

theorem workshop_plan : ∃ files, workshop.plan workshopOptions = .ok files := by
  have hsettings : Id.run (Program.settings workshop.snapshot workshopOptions).run
      = .ok .standard := rfl
  have hloaded : workshopOptions.inputs.mapM workshop.modulesAt = .ok [[workshopModule]] := by
    decide +kernel
  have hvalid : ∀ module ∈ [[workshopModule]].flatten, module.validate = .ok () := by
    decide +kernel
  have hdistinct : ([[workshopModule]].flatten.map fun module =>
      (module.packageName?, module.simpleName)).Nodup := by decide +kernel
  obtain ⟨files, hfiles⟩ :=
    prepare_succeeds_iff.mpr ⟨Configuration.standard_resolves, hvalid, hdistinct⟩
  exact ⟨files, Outcome.bind_eq_ok.mpr
    ⟨_, hsettings, Outcome.bind_eq_ok.mpr ⟨_, hloaded, hfiles⟩⟩⟩

/-- The module of the document is generated into the empty directory. -/
theorem run_frame_workshop :
    Request.ofArguments? ["core.json", "-o", "out"] = some (.generate workshopOptions)
      ∧ ∃ after files, workshop.run false ["core.json", "-o", "out"] = (.success, after)
        ∧ workshop.plan workshopOptions = .ok files
        ∧ Delivered [] ⟨"out"⟩ files workshop.files after.files := by
  have harguments : Request.ofArguments? ["core.json", "-o", "out"]
      = some (.generate workshopOptions) := by decide +kernel
  obtain ⟨planned, hplan⟩ := workshop_plan
  have hopens : FileTree.Opens [] workshop.files ⟨"out"⟩ ["out"] :=
    ⟨.inr (by decide +kernel), rfl⟩
  obtain ⟨after, hrun⟩ := run_into_empty harguments rfl hplan hopens rfl false
  obtain ⟨files, hfiles, hdelivered⟩ := (run_frame harguments hrun).2.2.2 rfl rfl
  exact ⟨harguments, after, files, hrun, hfiles, hdelivered⟩

end ModuleContainers
