import ModuleContainers.Metadata.Reader
import ModuleContainers.Metadata.Writer
import ModuleContainers.Proofs.Document.Reading

/-!
# Metadata survives JSON

A piece of metadata is written by more than one JSON value: a field that has its default may
be left out, and an object may have entries that are no fields. For each kind of metadata
`WrittenAs` says which values write it, at every depth, and there are two lemmas: its own
JSON is one of them, and from each of them it is read back. Together they make
`Module.read_of_writtenAs` and `read_toJson`.

The lists `fields` are the tables of the formats: names in the order of the record, with the
values that may stand for each field and, where it may be left out, the default that it then
stands for. A reader is gone along in the same order, one field at a time (`Record.Reads`),
so a field that is added to a record is one more entry here and one more step in the two
proofs.

Rules that take choices by tag cannot read a choice from an object, and JSON has no tags.
Whatever has a choice in it is therefore read back by the other rules only (`choicesByTag =
false`).
-/

namespace ModuleContainers.Metadata

open ModuleContainers.Document
open ModuleContainers.Document.Reader (boolean_eq_ok choice_eq_ok int32_eq_ok list_eq_ok
  optional_eq_ok text_eq_ok)
open ModuleContainers.Document.Record (Reads reader_eq_ok)
open ModuleContainers.Document.WrittenField (required defaulted)
open Outcome (map_eq_ok)

variable {rules : Rules} {value : Json}

/-- A text is written in one way. -/
def WritesText (text : String) (value : Json) : Prop := value = .text text

theorem writesText_text (text : String) : WritesText text (.text text) := rfl

/-- What is written for no text writes no text, so the two are told apart. -/
theorem writesText_null (text : String) : ¬WritesText text .null := by
  intro h
  cases h

/-- Items written by their own JSON make a list that writes them all. -/
theorem writesList_map {α : Type} {writes : α → Json → Prop} {toJson : α → Json}
    (h : ∀ a, writes a (toJson a)) (items : List α) :
    WritesList writes items (.list (items.map toJson)) :=
  ⟨_, rfl, List.forall₂_map_right_iff.mpr (List.forall₂_same.mpr fun a _ => h a)⟩

theorem writesText_texts (texts : List String) : WritesList WritesText texts (.texts texts) :=
  writesList_map writesText_text texts

theorem writesOption_map {α : Type} {writes : α → Json → Prop} {toJson : α → Json}
    (h : ∀ a, writes a (toJson a)) :
    ∀ content : Option α, WritesOption writes content (.ofOption (content.map toJson))
  | none => rfl
  | some a => h a

theorem texts_eq_ok {texts : List String} (h : WritesList WritesText texts value) :
    Reader.list .text rules (.ofJson value) = .ok texts :=
  list_eq_ok (fun _ _ => text_eq_ok) h

/-- Constants are written by their names. -/
def WritesConstant {α : Type} [Constant α] (constant : α) (value : Json) : Prop :=
  value = constantJson constant

/-! ## Attributes -/

namespace Attribute

variable {pair : Attribute}

/-- Both fields of an attribute have to be there. -/
def fields (pair : Attribute) : List WrittenField :=
  [required "name" (WritesText pair.name), required "value" (WritesText pair.value)]

/-- The values that write the attribute. -/
def WrittenAs (pair : Attribute) : Json → Prop := Writes pair.fields

theorem writtenAs_toJson (pair : Attribute) : pair.WrittenAs pair.toJson :=
  writes_ofEntries (by simp) (.cons ⟨rfl, rfl⟩ (.cons ⟨rfl, rfl⟩ .nil))

theorem read_of_writtenAs (h : pair.WrittenAs value) : read rules (.ofJson value) = .ok pair := by
  refine reader_eq_ok "Attribute" (fun entries hfields => ?_) h
  simp only [fields, List.forall_mem_cons] at hfields
  obtain ⟨hname, hvalue, -⟩ := hfields
  exact ((Reads.pure rules entries Attribute.mk).required hname fun _ => text_eq_ok).required
    hvalue fun _ => text_eq_ok

end Attribute

/-! ## Dependencies -/

namespace ServiceDependency

variable {needed : ServiceDependency}

/-- The kind and the tolerance of a dependency have defaults; what it names has none. -/
def fields (needed : ServiceDependency) : List WrittenField :=
  [required "class_name" (WritesText needed.className),
    required "service_name" (WritesText needed.serviceName),
    defaulted "kind" (WritesConstant needed.kind) needed.kind default,
    defaulted "optional" (· = .bool needed.optional) needed.optional false]

def WrittenAs (needed : ServiceDependency) : Json → Prop := Writes needed.fields

theorem writtenAs_toJson (needed : ServiceDependency) : needed.WrittenAs needed.toJson :=
  writes_ofEntries (by simp)
    (.cons ⟨rfl, rfl⟩ (.cons ⟨rfl, rfl⟩ (.cons ⟨rfl, rfl⟩ (.cons ⟨rfl, rfl⟩ .nil))))

theorem read_of_writtenAs (h : needed.WrittenAs value) :
    read rules (.ofJson value) = .ok needed := by
  refine reader_eq_ok "ServiceDependency" (fun entries hfields => ?_) h
  simp only [fields, List.forall_mem_cons] at hfields
  obtain ⟨hclass, hname, hkind, hoptional, -⟩ := hfields
  exact ((((Reads.pure rules entries ServiceDependency.mk).required hclass
    fun _ => text_eq_ok).required hname fun _ => text_eq_ok).defaulted hkind
    fun _ h => by subst h; cases needed.kind <;> rfl).defaulted hoptional fun _ => boolean_eq_ok

end ServiceDependency

namespace Dependency

/-- A task is written by its name. -/
def WrittenAs : Dependency → Json → Prop
  | .task name => WritesText name
  | .service needed => needed.WrittenAs

theorem writtenAs_toJson : ∀ dependency : Dependency, dependency.WrittenAs dependency.toJson
  | .task _ => rfl
  | .service needed => needed.writtenAs_toJson

/-- Texts and objects are told apart by their form, so the two kinds of dependencies are never
taken for each other. -/
theorem read_of_writtenAs {dependency : Dependency} (h : dependency.WrittenAs value) :
    read rules (.ofJson value) = .ok dependency := by
  -- The reader tries one alternative after the other: JSON has no tag that would refuse all of
  -- them, and an object is no text.
  have htag : ¬(Datum.ofJson value).hasTag = true := by simp [Datum.hasTag_ofJson]
  unfold read
  rw [if_neg htag]
  cases dependency with
  | task name => rw [show value = .text name from h]; rfl
  | service needed =>
      -- A dependency is read by its form only, hence by rules of its own.
      have hneeded : ServiceDependency.read .selfDescribed (.ofJson value) = .ok needed :=
        ServiceDependency.read_of_writtenAs h
      obtain ⟨entries, rfl, -⟩ := h
      simp only [Datum.ofJson] at hneeded ⊢
      rw [hneeded]

end Dependency

/-! ## Services -/

/-- A choice has one spelling in JSON, so there is no relation for it. -/
theorem Factory.read_of_toJson (hrules : rules.choicesByTag = false) (factory : Factory) :
    Factory.read rules (.ofJson factory.toJson) = .ok factory := by
  cases factory with
  | constructor => rfl
  | staticMethod name => exact choice_eq_ok hrules rfl (map_eq_ok.mpr ⟨name, text_eq_ok rfl, rfl⟩)

namespace Service

variable {service : Service}

/-- What makes the value of a service and the types it is registered under have to be there. -/
def fields (service : Service) : List WrittenField :=
  [required "name" (WritesText service.name),
    required "return_type" (WritesText service.returnType),
    required "source_class" (WritesText service.sourceClass),
    defaulted "factory" (· = service.factory.toJson) service.factory .constructor,
    defaulted "method_params" (WritesList Dependency.WrittenAs service.parameters)
      service.parameters [],
    defaulted "dependencies" (WritesList Dependency.WrittenAs service.dependencies)
      service.dependencies [],
    defaulted "singleton" (· = .bool service.singleton) service.singleton false,
    required "service_types" (WritesList WritesText service.serviceTypes),
    defaulted "desc" (WritesText service.description) service.description ""]

def WrittenAs (service : Service) : Json → Prop := Writes service.fields

theorem writtenAs_toJson (service : Service) : service.WrittenAs service.toJson :=
  writes_ofEntries (by simp) <| .cons ⟨rfl, rfl⟩ <| .cons ⟨rfl, rfl⟩ <| .cons ⟨rfl, rfl⟩
    <| .cons ⟨rfl, rfl⟩ <| .cons ⟨rfl, writesList_map Dependency.writtenAs_toJson _⟩
    <| .cons ⟨rfl, writesList_map Dependency.writtenAs_toJson _⟩ <| .cons ⟨rfl, rfl⟩
    <| .cons ⟨rfl, writesText_texts _⟩ <| .cons ⟨rfl, rfl⟩ .nil

theorem read_of_writtenAs (hrules : rules.choicesByTag = false) (h : service.WrittenAs value) :
    read rules (.ofJson value) = .ok service := by
  refine reader_eq_ok "ServiceMeta" (fun entries hfields => ?_) h
  simp only [fields, List.forall_mem_cons] at hfields
  obtain ⟨hname, hreturn, hsource, hfactory, hparameters, hdependencies, hsingleton, htypes,
    hdescription, -⟩ := hfields
  exact (Reads.pure rules entries Service.mk)
    |>.required hname (fun _ => text_eq_ok)
    |>.required hreturn (fun _ => text_eq_ok)
    |>.required hsource (fun _ => text_eq_ok)
    |>.defaulted hfactory (fun _ h => h ▸ Factory.read_of_toJson hrules service.factory)
    |>.defaulted hparameters (fun _ => list_eq_ok fun _ _ => Dependency.read_of_writtenAs)
    |>.defaulted hdependencies (fun _ => list_eq_ok fun _ _ => Dependency.read_of_writtenAs)
    |>.defaulted hsingleton (fun _ => boolean_eq_ok)
    |>.required htypes (fun _ => texts_eq_ok)
    |>.defaulted hdescription (fun _ => text_eq_ok)

end Service

/-! ## Tasks -/

theorem Accessor.read_of_toJson (hrules : rules.choicesByTag = false) (accessor : Accessor) :
    Accessor.read rules (.ofJson accessor.toJson) = .ok accessor := by
  cases accessor with
  | field name => exact choice_eq_ok hrules rfl (map_eq_ok.mpr ⟨name, text_eq_ok rfl, rfl⟩)
  | method name => exact choice_eq_ok hrules rfl (map_eq_ok.mpr ⟨name, text_eq_ok rfl, rfl⟩)

namespace Output

variable {output : Output}

/-- An output is written in full. -/
def fields (output : Output) : List WrittenField :=
  [required "name" (WritesText output.name), required "return_type" (WritesText output.returnType),
    required "accessor" (· = output.accessor.toJson),
    required "service_types" (WritesList WritesText output.serviceTypes)]

def WrittenAs (output : Output) : Json → Prop := Writes output.fields

theorem writtenAs_toJson (output : Output) : output.WrittenAs output.toJson :=
  writes_ofEntries (by simp) <| .cons ⟨rfl, rfl⟩ <| .cons ⟨rfl, rfl⟩ <| .cons ⟨rfl, rfl⟩
    <| .cons ⟨rfl, writesText_texts _⟩ .nil

theorem read_of_writtenAs (hrules : rules.choicesByTag = false) (h : output.WrittenAs value) :
    read rules (.ofJson value) = .ok output := by
  refine reader_eq_ok "ServiceOutput" (fun entries hfields => ?_) h
  simp only [fields, List.forall_mem_cons] at hfields
  obtain ⟨hname, hreturn, haccessor, htypes, -⟩ := hfields
  exact (Reads.pure rules entries Output.mk)
    |>.required hname (fun _ => text_eq_ok)
    |>.required hreturn (fun _ => text_eq_ok)
    |>.required haccessor (fun _ h => h ▸ Accessor.read_of_toJson hrules output.accessor)
    |>.required htypes (fun _ => texts_eq_ok)

end Output

namespace Task

variable {task : Task}

/-- The fields of a task, or of a hook. It may be as short as its name and its class. -/
def fields (task : Task) : List WrittenField :=
  [required "name" (WritesText task.name),
    defaulted "priority" (· = .int task.priority.toInt) task.priority 0,
    defaulted "thread_mode" (WritesConstant task.threadMode) task.threadMode default,
    required "class_name" (WritesText task.className),
    defaulted "constructor_params" (WritesList Dependency.WrittenAs task.parameters)
      task.parameters [],
    defaulted "dependencies" (WritesList Dependency.WrittenAs task.dependencies)
      task.dependencies [],
    defaulted "produced_services" (WritesList Output.WrittenAs task.outputs) task.outputs []]

def WrittenAs (task : Task) : Json → Prop := Writes task.fields

theorem writtenAs_toJson (task : Task) : task.WrittenAs task.toJson :=
  writes_ofEntries (by simp) <| .cons ⟨rfl, rfl⟩ <| .cons ⟨rfl, rfl⟩ <| .cons ⟨rfl, rfl⟩
    <| .cons ⟨rfl, rfl⟩ <| .cons ⟨rfl, writesList_map Dependency.writtenAs_toJson _⟩
    <| .cons ⟨rfl, writesList_map Dependency.writtenAs_toJson _⟩
    <| .cons ⟨rfl, writesList_map Output.writtenAs_toJson _⟩ .nil

/-- The outputs have choices in them, so the rules matter here as they do for a service. -/
theorem read_of_writtenAs (hrules : rules.choicesByTag = false) (h : task.WrittenAs value) :
    read rules (.ofJson value) = .ok task := by
  refine reader_eq_ok "TaskMeta" (fun entries hfields => ?_) h
  simp only [fields, List.forall_mem_cons] at hfields
  obtain ⟨hname, hpriority, hmode, hclass, hparameters, hdependencies, houtputs, -⟩ := hfields
  exact (Reads.pure rules entries Task.mk)
    |>.required hname (fun _ => text_eq_ok)
    |>.defaulted hpriority (fun _ => int32_eq_ok)
    |>.defaulted hmode (fun _ h => by subst h; cases task.threadMode <;> rfl)
    |>.required hclass (fun _ => text_eq_ok)
    |>.defaulted hparameters (fun _ => list_eq_ok fun _ _ => Dependency.read_of_writtenAs)
    |>.defaulted hdependencies (fun _ => list_eq_ok fun _ _ => Dependency.read_of_writtenAs)
    |>.defaulted houtputs (fun _ => list_eq_ok fun _ _ => Output.read_of_writtenAs hrules)

end Task

/-! ## Routes -/

namespace Route

variable {route : Route}

/-- A route may do without all but its name and its class. -/
def fields (route : Route) : List WrittenField :=
  [required "name" (WritesText route.name),
    defaulted "rules" (WritesList WritesText route.rules) route.rules [],
    defaulted "route_type" (WritesText route.routeType) route.routeType "",
    defaulted "attributes" (WritesList Attribute.WrittenAs route.attributes) route.attributes [],
    defaulted "interceptors" (WritesList WritesText route.interceptors) route.interceptors [],
    defaulted "launcher" (WritesOption WritesText route.launcher) route.launcher none,
    required "class_name" (WritesText route.className),
    defaulted "desc" (WritesText route.description) route.description ""]

def WrittenAs (route : Route) : Json → Prop := Writes route.fields

theorem writtenAs_toJson (route : Route) : route.WrittenAs route.toJson :=
  writes_ofEntries (by simp) <| .cons ⟨rfl, rfl⟩ <| .cons ⟨rfl, writesText_texts _⟩
    <| .cons ⟨rfl, rfl⟩ <| .cons ⟨rfl, writesList_map Attribute.writtenAs_toJson _⟩
    <| .cons ⟨rfl, writesText_texts _⟩ <| .cons ⟨rfl, writesOption_map writesText_text _⟩
    <| .cons ⟨rfl, rfl⟩ <| .cons ⟨rfl, rfl⟩ .nil

/-- A route has no choice in it, so it is read back by any rules. -/
theorem read_of_writtenAs (h : route.WrittenAs value) : read rules (.ofJson value) = .ok route := by
  refine reader_eq_ok "RouteMeta" (fun entries hfields => ?_) h
  simp only [fields, List.forall_mem_cons] at hfields
  obtain ⟨hname, hrules, htype, hattributes, hinterceptors, hlauncher, hclass, hdescription, -⟩ :=
    hfields
  exact (Reads.pure rules entries Route.mk)
    |>.required hname (fun _ => text_eq_ok)
    |>.defaulted hrules (fun _ => texts_eq_ok)
    |>.defaulted htype (fun _ => text_eq_ok)
    |>.defaulted hattributes (fun _ => list_eq_ok fun _ _ => Attribute.read_of_writtenAs)
    |>.defaulted hinterceptors (fun _ => texts_eq_ok)
    |>.defaulted hlauncher (fun _ => optional_eq_ok (fun _ _ => text_eq_ok) writesText_null)
    |>.required hclass (fun _ => text_eq_ok)
    |>.defaulted hdescription (fun _ => text_eq_ok)

end Route

/-! ## Modules -/

namespace Module

variable {module : Module}

/-- The fields of a module. What is written for the pieces of a module is said at their own
depth by the `WrittenAs` of each. -/
def fields (module : Module) : List WrittenField :=
  [required "name" (WritesText module.name),
    required "entrance_class" (WritesText module.entranceClass),
    defaulted "bootstrap_mode" (WritesConstant module.bootstrapMode) module.bootstrapMode default,
    defaulted "desc" (WritesText module.description) module.description "",
    defaulted "activator_class" (WritesOption WritesText module.activatorClass)
      module.activatorClass none,
    defaulted "on_create" (WritesOption Task.WrittenAs module.onCreate) module.onCreate none,
    defaulted "on_post_create" (WritesOption Task.WrittenAs module.onPostCreate)
      module.onPostCreate none,
    defaulted "attributes" (WritesList Attribute.WrittenAs module.attributes) module.attributes [],
    defaulted "routes" (WritesList Route.WrittenAs module.routes) module.routes [],
    defaulted "services" (WritesList Service.WrittenAs module.services) module.services [],
    defaulted "tasks" (WritesList Task.WrittenAs module.tasks) module.tasks []]

/-- The values that write the module. -/
def WrittenAs (module : Module) : Json → Prop := Writes module.fields

/-- Its own JSON leaves nothing out. -/
theorem writtenAs_toJson (module : Module) : module.WrittenAs module.toJson :=
  writes_ofEntries (by simp) <| .cons ⟨rfl, rfl⟩ <| .cons ⟨rfl, rfl⟩ <| .cons ⟨rfl, rfl⟩
    <| .cons ⟨rfl, rfl⟩ <| .cons ⟨rfl, writesOption_map writesText_text _⟩
    <| .cons ⟨rfl, writesOption_map Task.writtenAs_toJson _⟩
    <| .cons ⟨rfl, writesOption_map Task.writtenAs_toJson _⟩
    <| .cons ⟨rfl, writesList_map Attribute.writtenAs_toJson _⟩
    <| .cons ⟨rfl, writesList_map Route.writtenAs_toJson _⟩
    <| .cons ⟨rfl, writesList_map Service.writtenAs_toJson _⟩
    <| .cons ⟨rfl, writesList_map Task.writtenAs_toJson _⟩ .nil

theorem read_of_writtenAs (hrules : rules.choicesByTag = false) (h : module.WrittenAs value) :
    read rules (.ofJson value) = .ok module := by
  refine reader_eq_ok "ModuleMeta" (fun entries hfields => ?_) h
  simp only [fields, List.forall_mem_cons] at hfields
  obtain ⟨hname, hentrance, hmode, hdescription, hactivator, hcreate, hpost, hattributes, hroutes,
    hservices, htasks, -⟩ := hfields
  -- Both hooks may be null, which is no object and so writes no task.
  have hhook : ∀ {hook : Option Task} (value : Json), WritesOption Task.WrittenAs hook value →
      Reader.optional Task.read rules (.ofJson value) = .ok hook := fun _ =>
    optional_eq_ok (fun _ _ => Task.read_of_writtenAs hrules) fun _ => not_writes_null
  exact (Reads.pure rules entries Module.mk)
    |>.required hname (fun _ => text_eq_ok)
    |>.required hentrance (fun _ => text_eq_ok)
    |>.defaulted hmode (fun _ h => by subst h; cases module.bootstrapMode <;> rfl)
    |>.defaulted hdescription (fun _ => text_eq_ok)
    |>.defaulted hactivator (fun _ => optional_eq_ok (fun _ _ => text_eq_ok) writesText_null)
    |>.defaulted hcreate hhook
    |>.defaulted hpost hhook
    |>.defaulted hattributes (fun _ => list_eq_ok fun _ _ => Attribute.read_of_writtenAs)
    |>.defaulted hroutes (fun _ => list_eq_ok fun _ _ => Route.read_of_writtenAs)
    |>.defaulted hservices (fun _ => list_eq_ok fun _ _ => Service.read_of_writtenAs hrules)
    |>.defaulted htasks (fun _ => list_eq_ok fun _ _ => Task.read_of_writtenAs hrules)

/-- A module is read back from its JSON, and from every value that writes it. -/
theorem read_toJson (module : Module) :
    read .json (.ofJson module.toJson) = .ok module
      ∧ module.WrittenAs module.toJson
      ∧ ∀ value, module.WrittenAs value → read .json (.ofJson value) = .ok module :=
  ⟨read_of_writtenAs rfl module.writtenAs_toJson, module.writtenAs_toJson,
    fun _ h => read_of_writtenAs rfl h⟩

/-- A module with a hook that takes a service. -/
def courier : Module where
  name := "courier"
  entranceClass := "com.example.CourierModule"
  onCreate := some
    { name := "setup", className := "com.example.Setup",
      parameters := [.service { className := "com.example.Log", serviceName := "log" }] }

/-- The courier without what its defaults say, and with remarks. -/
def courierJson : Json :=
  .object [("entrance_class", .text "com.example.CourierModule"), ("name", .text "courier"),
    ("on_create", .object [("class_name", .text "com.example.Setup"),
      ("constructor_params", .list [.object [("class_name", .text "com.example.Log"),
        ("remark", .null), ("service_name", .text "log")]]),
      ("name", .text "setup"), ("remark", .text "runs first")]),
    ("remark", .list [])]

theorem read_courierJson :
    courier.WrittenAs courierJson ∧ read .json (.ofJson courierJson) = .ok courier := by
  have hwritten : courier.WrittenAs courierJson := by
    refine ⟨_, rfl, by decide, ?_⟩
    simp only [fields, List.forall_mem_cons]
    refine ⟨.of_present rfl rfl, .of_present rfl rfl, .of_absent rfl rfl, .of_absent rfl rfl,
      .of_absent rfl rfl, .of_present rfl ?_, .of_absent rfl rfl, .of_absent rfl rfl,
      .of_absent rfl rfl, .of_absent rfl rfl, .of_absent rfl rfl, by simp⟩
    refine ⟨_, rfl, by decide, ?_⟩
    simp only [Task.fields, List.forall_mem_cons]
    refine ⟨.of_present rfl rfl, .of_absent rfl rfl, .of_absent rfl rfl, .of_present rfl rfl,
      .of_present rfl ⟨_, rfl, .cons ?_ .nil⟩, .of_absent rfl rfl, .of_absent rfl rfl, by simp⟩
    refine ⟨_, rfl, by decide, ?_⟩
    simp only [ServiceDependency.fields, List.forall_mem_cons]
    exact ⟨.of_present rfl rfl, .of_present rfl rfl, .of_absent rfl rfl, .of_absent rfl rfl,
      by simp⟩
  exact ⟨hwritten, (read_toJson courier).2.2 courierJson hwritten⟩

end Module

end ModuleContainers.Metadata
