import ModuleContainers.Configuration.Reader
import ModuleContainers.Proofs.Configuration
import ModuleContainers.Proofs.Document.Reading

/-!
# What a configuration overrides

A document of the configuration gives some of the settings (`Overrides`), and the
configuration that it stands for is the standard one with just these settings
replaced (`Overrides.applied`). A document with anything else in it, beside the
settings or beside the keys of the runtime, stands for no configuration.

The runtime has a name for each of its keys, and so a setting, a standard name and a
class meet by their key alone: what is done with the names is said with
`Runtime.zipWith` and `Runtime.map`, which keep each thing under its key.
-/

namespace ModuleContainers

open ModuleContainers.Document
open ModuleContainers.Document.Record (Reads)
open ModuleContainers.Java (ClassName)
open Outcome (mapM_eq_error mapM_eq_ok mapM_succeeds mapError_eq_ok)

/-! ## The runtime, key by key -/

namespace Runtime

variable {α β γ : Type}

/-- Puts together what two runtimes have under each key. -/
def zipWith (f : α → β → γ) (a : Runtime α) (b : Runtime β) : Runtime γ where
  moduleContainer := f a.moduleContainer b.moduleContainer
  moduleData := f a.moduleData b.moduleData
  moduleTaskOptions := f a.moduleTaskOptions b.moduleTaskOptions
  moduleActivator := f a.moduleActivator b.moduleActivator
  defaultActivator := f a.defaultActivator b.defaultActivator
  bootstrapMode := f a.bootstrapMode b.bootstrapMode
  serviceCentral := f a.serviceCentral b.serviceCentral
  registry := f a.registry b.registry
  taskContainer := f a.taskContainer b.taskContainer
  threadMode := f a.threadMode b.threadMode
  serviceDependency := f a.serviceDependency b.serviceDependency
  defaultLauncher := f a.defaultLauncher b.defaultLauncher
  builtins := f a.builtins b.builtins
  provider := f a.provider b.provider
  pair := f a.pair b.pair
  tuples := f a.tuples b.tuples

def map (f : α → β) (r : Runtime α) : Runtime β := zipWith (fun a _ => f a) r r

/-- What a runtime has, with its keys and in the order of the keys. -/
def entries (r : Runtime α) : List (String × α) := (zipWith Prod.mk keys r).toList

theorem toList_map (f : α → β) (r : Runtime α) : (r.map f).toList = r.toList.map f := rfl

theorem snd_entries (r : Runtime α) : r.entries.map Prod.snd = r.toList := rfl

theorem toList_injective : Function.Injective (toList (α := α)) := by
  intro a b h
  cases a
  cases b
  simpa [toList] using h

/-! ## Settings in place of the standard ones -/

/-- Names for some of the keys. -/
structure Overrides where
  names : List (String × String)
  distinct : (names.map Prod.fst).Nodup
  known : ∀ name ∈ names, name.1 ∈ keys.toList

namespace Overrides

def members (given : Overrides) : List (String × Json) :=
  given.names.map fun name => (name.1, .text name.2)

/-- The standard names, with those replaced whose keys are given. -/
def applied (given : Overrides) : Runtime String :=
  zipWith (fun key name => (given.names.lookup key).getD name) keys standard

variable {rules : Rules}

theorem reads_nameField (given : Overrides) {α : Type} {record : Record (String → α)}
    {make : String → α} (h : record.Reads rules given.members make) (key name : String) :
    (record <*> nameField key name).Reads rules given.members
      (make ((given.names.lookup key).getD name)) :=
  h.given (Entries.lookup_map_snd Json.text given.names key) (fun _ => Reader.text_eq_ok rfl)
    (by simp)

/-- The proof goes back along the record: its last key is read off what the keys
before it read, and what is left at the end is the record with no key. -/
theorem reads_record (given : Overrides) :
    record.Reads rules given.members given.applied := by
  unfold record
  repeat apply reads_nameField
  exact .pure rules _ _

theorem read_members (given : Overrides) :
    Runtime.read rules (.ofJson (.object given.members)) = .ok given.applied := by
  have hkeys : given.members.map Prod.fst = given.names.map Prod.fst := by
    rw [members, List.map_map]
    rfl
  have hknown : ∀ entry ∈ given.members, entry.1 ∈ record.names :=
    List.forall_mem_map.mpr given.known
  rw [Runtime.read, Record.reader_closed _ hknown]
  exact Record.reader_of_reads _ (hkeys ▸ given.distinct) given.reads_record

end Overrides

end Runtime

namespace Configuration

/-- Some of the settings. -/
structure Overrides where
  indent : Option String
  banner : Option String
  runtime : Option Runtime.Overrides

namespace Overrides

/-- The settings as a document says them; one that is not given is left out. -/
def members (given : Overrides) : List (String × Json) :=
  (given.indent.map fun indent => ("indent", .text indent)).toList
    ++ (given.banner.map fun banner => ("banner", .text banner)).toList
    ++ (given.runtime.map fun runtime => ("runtime", .object runtime.members)).toList

/-- The standard configuration, with the settings replaced that are given. -/
def applied (given : Overrides) : Configuration where
  indent := given.indent.getD standard.indent
  banner := given.banner.getD standard.banner
  runtime := (given.runtime.map Runtime.Overrides.applied).getD standard.runtime

variable {rules : Rules} {entries : List (String × Json)}

theorem nodup_members (given : Overrides) : (given.members.map Prod.fst).Nodup := by
  rcases given with ⟨_ | _, _ | _, _ | _⟩ <;> simp [members]

theorem mem_names_of_mem_members (given : Overrides) :
    ∀ entry ∈ given.members, entry.1 ∈ record.names := by
  have hnames : record.names = ["indent", "banner", "runtime"] := rfl
  rcases given with ⟨_ | _, _ | _, _ | _⟩ <;> simp [members, hnames]

theorem lookup_members (given : Overrides) :
    given.members.lookup "indent" = given.indent.map .text
      ∧ given.members.lookup "banner" = given.banner.map .text
      ∧ given.members.lookup "runtime"
        = given.runtime.map fun runtime => .object runtime.members := by
  rcases given with ⟨_ | _, _ | _, _ | _⟩ <;> exact ⟨rfl, rfl, rfl⟩

theorem reads_record (given : Overrides) (hentries : entries.Perm given.members) :
    record.Reads rules entries given.applied := by
  have hlookup := Entries.lookup_of_perm given.nodup_members hentries
  obtain ⟨hindent, hbanner, hruntime⟩ := given.lookup_members
  rw [← hlookup] at hindent hbanner hruntime
  exact (((Reads.pure rules entries Configuration.mk).given hindent
      (fun _ => Reader.text_eq_ok rfl) (by simp)).given hbanner
      (fun _ => Reader.text_eq_ok rfl) (by simp)).given hruntime
      (fun runtime => runtime.read_members) rfl

/-- The settings that a document gives replace the standard ones, in whatever order
it gives them. -/
theorem read_eq_ok (given : Overrides) (hentries : entries.Perm given.members) :
    Configuration.read rules (.ofJson (.object entries)) = .ok given.applied := by
  have hkeys : (entries.map Prod.fst).Nodup :=
    (hentries.map Prod.fst).nodup_iff.mpr given.nodup_members
  have hknown : ∀ entry ∈ entries, entry.1 ∈ record.names := fun entry hmem =>
    given.mem_names_of_mem_members entry (hentries.subset hmem)
  rw [Configuration.read, Record.reader_closed _ hknown]
  exact Record.reader_of_reads _ hkeys (given.reads_record hentries)

end Overrides

/-! ## Settings that there are not -/

variable {rules : Rules} {entries : List (String × Json)}

theorem read_eq_error_of_key {entry : String × Json} (hmem : entry ∈ entries)
    (hkey : entry.1 ∉ ["indent", "banner", "runtime"]) :
    ∃ e, Configuration.read rules (.ofJson (.object entries)) = .error e :=
  Record.reader_eq_error _ hmem (.inl hkey)

theorem read_eq_error_of_runtimeKey {names : List (String × Json)}
    (hmem : ("runtime", .object names) ∈ entries) {name : String × Json} (hname : name ∈ names)
    (hkey : name.1 ∉ Runtime.keys.toList) :
    ∃ e, Configuration.read rules (.ofJson (.object entries)) = .error e := by
  obtain ⟨e, he⟩ : ∃ e, Runtime.read rules (.ofJson (.object names)) = .error e :=
    Record.reader_eq_error _ hname (.inl hkey)
  have hcheck : record.check rules "runtime" (.ofJson (.object names)) = .error e := by
    have hread : record.check rules "runtime" (.ofJson (.object names))
        = (Runtime.read rules (.ofJson (.object names))).map fun _ => () := rfl
    rw [hread, he]
    rfl
  exact Record.reader_eq_error _ hmem (.inr ⟨e, hcheck⟩)

end Configuration

/-! ## Names to classes -/

namespace Runtime

variable {names : Runtime String} {types : Runtime ClassName}

/-- The keys are gone through in their order, and the name under each is resolved. -/
theorem toList_resolve (names : Runtime String) :
    toList <$> names.resolve = names.entries.mapM fun entry => resolveName entry.1 entry.2 := by
  simp only [resolve, entries, zipWith, toList, List.mapM_cons, List.mapM_nil, map_bind, bind_assoc,
    pure_bind, map_pure]

theorem resolveName_eq_ok {key name : String} {c : ClassName} :
    resolveName key name = .ok c ↔ ClassName.parse name = .ok c :=
  mapError_eq_ok

/-- Each class is what the name under its own key stands for. -/
theorem resolve_eq_ok_iff :
    names.resolve = .ok types ↔ names.map ClassName.parse = types.map .ok := by
  have hlist : names.resolve = .ok types ↔ toList <$> names.resolve = .ok types.toList := by
    cases names.resolve with
    | error e => simp [Functor.map, Except.map]
    | ok found => simp [Functor.map, Except.map, toList_injective.eq_iff]
  rw [hlist, toList_resolve, mapM_eq_ok]
  simp [entries, zipWith, toList, map, resolveName_eq_ok]

theorem resolves_iff :
    (∃ types, names.resolve = .ok types)
      ↔ ∀ name ∈ names.toList, ∃ c, ClassName.parse name = .ok c := by
  constructor
  · rintro ⟨types, htypes⟩ name hname
    have hparse : ClassName.parse name ∈ (types.map Except.ok).toList := by
      rw [← resolve_eq_ok_iff.mp htypes, toList_map]
      exact List.mem_map_of_mem hname
    rw [toList_map] at hparse
    obtain ⟨c, -, hc⟩ := List.mem_map.mp hparse
    exact ⟨c, hc.symm⟩
  · intro hparse
    have hsteps : ∀ entry ∈ names.entries, ∃ c, resolveName entry.1 entry.2 = .ok c := by
      intro entry hmem
      obtain ⟨c, hc⟩ := hparse entry.2 (snd_entries names ▸ List.mem_map_of_mem hmem)
      exact ⟨c, resolveName_eq_ok.mpr hc⟩
    obtain ⟨found, hfound⟩ := mapM_succeeds hsteps
    rw [← toList_resolve] at hfound
    cases hresolve : names.resolve with
    | error e => rw [hresolve] at hfound; cases hfound
    | ok types => exact ⟨types, rfl⟩

/-- A name that stands for no class, while each name before it, in the order of the
keys, stands for one. -/
def FirstBad (names : Runtime String) (bad : BadName) : Prop :=
  ∃ earlier name later, names.entries = earlier ++ (bad.key, name) :: later
    ∧ (∀ entry ∈ earlier, ∃ c, ClassName.parse entry.2 = .ok c)
    ∧ ClassName.parse name = .error bad.cause

theorem firstBad_of_resolve {bad : BadName} (h : names.resolve = .error bad) :
    names.FirstBad bad := by
  have hlist : toList <$> names.resolve = .error bad := by rw [h]; rfl
  rw [toList_resolve] at hlist
  obtain ⟨earlier, ⟨key, name⟩, later, hentries, hearlier, hbad⟩ := mapM_eq_error.mp hlist
  have hearlier' : ∀ entry ∈ earlier, ∃ c, ClassName.parse entry.2 = .ok c := fun entry hmem =>
    (hearlier entry hmem).imp fun _ => resolveName_eq_ok.mp
  cases hparse : ClassName.parse name with
  | ok c => cases (resolveName_eq_ok.mpr hparse).symm.trans hbad
  | error cause =>
      simp only [resolveName, hparse] at hbad
      obtain rfl := Except.error.inj hbad
      exact ⟨earlier, name, later, hentries, hearlier', hparse⟩

end Runtime

namespace Configuration

/-- A document replaces just the settings that it gives, and none that there are not.
The names that result are resolved each under its own key. -/
theorem overrides_read_and_resolved (rules : Rules) :
    (∀ (given : Overrides) (entries : List (String × Json)), entries.Perm given.members →
        Configuration.read rules (.ofJson (.object entries)) = .ok given.applied)
      ∧ (∀ entries : List (String × Json),
          (∃ entry ∈ entries, entry.1 ∉ ["indent", "banner", "runtime"]) →
          ∃ e, Configuration.read rules (.ofJson (.object entries)) = .error e)
      ∧ (∀ entries names : List (String × Json), ("runtime", .object names) ∈ entries →
          (∃ name ∈ names, name.1 ∉ Runtime.keys.toList) →
          ∃ e, Configuration.read rules (.ofJson (.object entries)) = .error e)
      ∧ ∀ configuration : Configuration,
          ((∃ types, configuration.resolve = .ok types)
            ↔ ∀ name ∈ configuration.runtime.toList, ∃ c, ClassName.parse name = .ok c)
          ∧ (∀ types, configuration.resolve = .ok types →
              configuration.runtime.map ClassName.parse = types.map .ok)
          ∧ ∀ failure, configuration.resolve = .error failure →
              ∃ bad fault rest, configuration.runtime.FirstBad bad
                ∧ failure = .badConfiguration fault
                ∧ fault.message = "runtime." ++ bad.key ++ " is invalid" ++ rest := by
  refine ⟨fun given entries => given.read_eq_ok,
    fun entries ⟨entry, hmem, hkey⟩ => read_eq_error_of_key hmem hkey,
    fun entries names hmem ⟨name, hname, hkey⟩ => read_eq_error_of_runtimeKey hmem hname hkey,
    fun configuration => ⟨?_, fun types htypes => ?_, fun failure hfailure => ?_⟩⟩
  · simp only [Configuration.resolve, mapError_eq_ok, Runtime.resolves_iff]
  · exact Runtime.resolve_eq_ok_iff.mp (mapError_eq_ok.mp htypes)
  · cases hresolve : configuration.runtime.resolve with
    | ok types => simp [Configuration.resolve, hresolve, Except.mapError] at hfailure
    | error bad =>
        rw [Configuration.resolve, hresolve] at hfailure
        obtain rfl := Except.error.inj hfailure
        have hmessage : (ConfigurationFault.runtimeName bad).message
            = "runtime." ++ bad.key ++ " is invalid"
              ++ (": " ++ invalidClassNameMessage bad.cause) := by
          have hcolon : " is invalid: " = " is invalid" ++ ": " := rfl
          simp only [ConfigurationFault.message, hcolon, String.append_assoc]
        exact ⟨bad, _, _, Runtime.firstBad_of_resolve hresolve, rfl, hmessage⟩

/-- A runtime with two names that stand for no class, and one without a package. -/
def misnamed : Configuration where
  indent := standard.indent
  banner := standard.banner
  runtime :=
    { Runtime.standard with registry := "com.example..Registry", pair := "", tuples := "Tuples" }

theorem overrides_read_and_resolved_misnamed :
    Configuration.read .json (.ofJson (.object
        [("runtime", .object [("tuples", .text "Tuples"), ("registry", .text "")]),
          ("indent", .text "\t")]))
      = .ok { standard with
          indent := "\t", runtime := { Runtime.standard with registry := "", tuples := "Tuples" } }
      ∧ (∃ e, Configuration.read .json (.ofJson (.object [("indentation", .text "\t")])) = .error e)
      ∧ (∃ e, Configuration.read .json
          (.ofJson (.object [("runtime", .object [("pairs", .text "")])])) = .error e)
      ∧ (∃ types, standard.resolve = .ok types
        ∧ standard.runtime.map ClassName.parse = types.map .ok)
      ∧ ∃ bad fault rest, misnamed.runtime.FirstBad bad
        ∧ misnamed.resolve = .error (.badConfiguration fault)
        ∧ fault.message = "runtime." ++ bad.key ++ " is invalid" ++ rest := by
  obtain ⟨hread, hsetting, hkey, hresolve⟩ := overrides_read_and_resolved .json
  refine ⟨?_, hsetting _ ⟨_, List.mem_singleton_self _, by decide⟩,
    hkey _ _ (List.mem_singleton_self _) ⟨_, List.mem_singleton_self _, by decide⟩, ?_, ?_⟩
  · let given : Overrides :=
      ⟨some "\t", none, some ⟨[("tuples", "Tuples"), ("registry", "")], by decide, by decide⟩⟩
    exact hread given _ (List.Perm.swap ..)
  · obtain ⟨types, htypes⟩ := Configuration.standard_resolves
    exact ⟨types, htypes, (hresolve standard).2.1 types htypes⟩
  · have hfails : misnamed.resolve = .error (.badConfiguration (.runtimeName
        ⟨"registry", "com.example..Registry", .emptySegment⟩)) := by
      decide +kernel
    obtain ⟨bad, fault, rest, hfirst, hfault, hmessage⟩ := (hresolve misnamed).2.2 _ hfails
    exact ⟨bad, fault, rest, hfirst, hfault ▸ hfails, hmessage⟩

end Configuration

end ModuleContainers
