import ModuleContainers.Failure
import ModuleContainers.Proofs.Java.ClassName
import ModuleContainers.Proofs.Outcome

/-!
# Classes that names resolve to

The classes of a resolved runtime and the classes that texts of the metadata name
all come from `ClassName.parse`, so all of them are well formed.
-/

namespace ModuleContainers

open ModuleContainers.Java (ClassName)
open Outcome (bind_eq_ok mapError_eq_ok pure_eq_ok)

/-- What wraps a failure leaves a success alone. -/
theorem parse_of_mapError {ε : Type} {name : String} {wrap : ClassName.Invalid → ε} {c : ClassName}
    (h : (ClassName.parse name).mapError wrap = .ok c) : ClassName.parse name = .ok c :=
  mapError_eq_ok.mp h

/-- The class that a text names, for texts that name one. -/
def classOf (name : String) : ClassName :=
  match ClassName.parse name with
  | .ok c => c
  | .error _ => .top "" ""

/-- A text that is read names a well-formed class, which outlines know as `classOf`. -/
theorem classNamed_eq_ok {name : String} {c : ClassName} (h : classNamed name = .ok c) :
    c = classOf name ∧ c.WellFormed := by
  have hparse := parse_of_mapError h
  exact ⟨by rw [classOf, hparse], ClassName.wellFormed_of_parse hparse⟩

namespace Runtime

/-- All classes of the runtime can be written. -/
def WellFormed (runtime : Runtime ClassName) : Prop := ∀ c ∈ runtime.toList, c.WellFormed

/-- Each key is read by itself, and only a name that is a class is taken. -/
theorem wellFormed_of_resolve {names : Runtime String} {runtime : Runtime ClassName}
    (h : names.resolve = .ok runtime) : runtime.WellFormed := by
  have hname : ∀ {key name : String} {c : ClassName}, resolveName key name = .ok c → c.WellFormed :=
    fun h => ClassName.wellFormed_of_parse (parse_of_mapError h)
  simp only [resolve, bind_eq_ok, pure_eq_ok] at h
  obtain ⟨c₁, h₁, c₂, h₂, c₃, h₃, c₄, h₄, c₅, h₅, c₆, h₆, c₇, h₇, c₈, h₈, c₉, h₉, c₁₀, h₁₀,
    c₁₁, h₁₁, c₁₂, h₁₂, c₁₃, h₁₃, c₁₄, h₁₄, c₁₅, h₁₅, c₁₆, h₁₆, rfl⟩ := h
  simp only [WellFormed, toList, List.forall_mem_cons]
  exact ⟨hname h₁, hname h₂, hname h₃, hname h₄, hname h₅, hname h₆, hname h₇, hname h₈, hname h₉,
    hname h₁₀, hname h₁₁, hname h₁₂, hname h₁₃, hname h₁₄, hname h₁₅, hname h₁₆, by simp⟩

/-- The classes of the runtime library as it is released. -/
def standardClasses : Runtime ClassName where
  moduleContainer := .top "com.bilibili.brouter.api.internal.module" "ModuleContainer"
  moduleData := .top "com.bilibili.brouter.api.internal.module" "ModuleData"
  moduleTaskOptions := .top "com.bilibili.brouter.api.internal.module" "ModuleTaskOptions"
  moduleActivator := .top "com.bilibili.brouter.api" "ModuleActivator"
  defaultActivator := .top "com.bilibili.brouter.api.internal.module" "DefaultModuleActivator"
  bootstrapMode := .top "com.bilibili.brouter.api" "BootStrapMode"
  serviceCentral := .top "com.bilibili.brouter.api" "ServiceCentral"
  registry := .top "com.bilibili.brouter.api.internal" "Registry"
  taskContainer := .top "com.bilibili.brouter.api.task" "TaskContainer"
  threadMode := .top "com.bilibili.brouter.api.task" "ThreadMode"
  serviceDependency := .top "com.bilibili.brouter.api.task" "ServiceDependency"
  defaultLauncher := .top "com.bilibili.brouter.api" "Launcher"
  builtins := .top "com.bilibili.brouter.api.internal" "BuiltInKt"
  provider := .top "javax.inject" "Provider"
  pair := .top "kotlin" "Pair"
  tuples := .top "kotlin" "TuplesKt"

theorem standard_resolve : standard.resolve = .ok standardClasses := by decide +kernel

theorem standard_resolves : ∃ runtime, standard.resolve = .ok runtime := ⟨_, standard_resolve⟩

end Runtime

theorem Configuration.standard_resolves :
    ∃ runtime, Configuration.standard.resolve = .ok runtime := by
  obtain ⟨runtime, hruntime⟩ := Runtime.standard_resolves
  exact ⟨runtime, by rw [Configuration.resolve, Configuration.standard, hruntime]; rfl⟩

end ModuleContainers
