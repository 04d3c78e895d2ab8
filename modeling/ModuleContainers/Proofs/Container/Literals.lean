import ModuleContainers.Proofs.Container.Completeness
import ModuleContainers.Proofs.Container.FreeText

/-!
# Every text of the metadata is a literal

The string literals of a container class are the texts of the metadata: each of
them stands there unchanged, as often as it is needed, in the order in which the
class uses it, and there are no other literals (`literals_eq_moduleTexts`).

What the metadata has to say is a list that is computed from the metadata alone
(`moduleTexts`), and the class has it in its literals (`fills_body`). The clauses in
front of the class have none.
-/

namespace ModuleContainers.Container

open ModuleContainers.Java (ClassName CompilationUnit Outline codeTokens)
open ModuleContainers.Metadata (Module)

variable {runtime : Runtime ClassName}

theorem literals_clauses (package : String) (imports : List String) :
    Lexical.literals (CompilationUnit.packageTokens package
      ++ imports.flatMap CompilationUnit.importTokens) = [] := by
  have hpackage : Lexical.literals (CompilationUnit.packageTokens package) = [] := by
    have hopen : Lexical.literals (codeTokens "package ") = [] := rfl
    have hclose : Lexical.literals (codeTokens ";") = [] := rfl
    unfold CompilationUnit.packageTokens
    split
    · rfl
    · simp [hopen, hclose, Lexical.literals_pathTokens]
  have himport : ∀ target, Lexical.literals (CompilationUnit.importTokens target) = [] := by
    have hopen : Lexical.literals (codeTokens "import ") = [] := rfl
    have hclose : Lexical.literals (codeTokens ";") = [] := rfl
    intro target
    simp [CompilationUnit.importTokens, hopen, hclose, Lexical.literals_pathTokens]
  have himports : Lexical.literals (imports.flatMap CompilationUnit.importTokens) = [] := by
    induction imports with
    | nil => rfl
    | cons target rest ih => rw [List.flatMap_cons, Lexical.literals_append, himport, ih]; rfl
  rw [Lexical.literals_append, hpackage, himports]
  rfl

/-! ## The literals of the source -/

/-- The string literals of the source of an accepted module are the texts of the
module, unchanged and in order, and no other ones. -/
theorem literals_eq_moduleTexts {names : Runtime String} {runtime : Runtime ClassName}
    (hresolve : names.resolve = .ok runtime) {module : Module} (hvalid : module.validate = .ok ())
    (banner : String) {indent : String} (hindent : ∀ c ∈ indent.toList, c = ' ' ∨ c = '\t') :
    ∃ file tokens, unit runtime banner module = .ok file
      ∧ Lexical.lex (file.render indent) = some tokens
      ∧ Lexical.literals tokens = moduleTexts runtime module := by
  have hruntime := Runtime.wellFormed_of_resolve hresolve
  have hnamed := Module.wellNamed_of_validate hvalid
  obtain ⟨file, hfile⟩ := unit_succeeds runtime hnamed banner
  obtain ⟨hpackage, -, -, hbody⟩ := reads_unit hruntime hfile
  refine ⟨file, _, hfile, CompilationUnit.lex_render hpackage hbody hindent, ?_⟩
  rw [CompilationUnit.fileTokens, Lexical.literals_append, literals_clauses,
    Outline.literals_tokens, (fills_body runtime hnamed file.typeName).literals]
  rfl

theorem parse_defaultActivator {names : Runtime String} (h : names.resolve = .ok runtime) :
    ClassName.parse names.defaultActivator = .ok runtime.defaultActivator := by
  simp only [Runtime.resolve, Outcome.bind_eq_ok, Outcome.pure_eq_ok] at h
  obtain ⟨_, -, _, -, _, -, _, -, activator, hactivator, h⟩ := h
  obtain ⟨_, -, _, -, _, -, _, -, _, -, _, -, _, -, _, -, _, -, _, -, _, -, rfl⟩ := h
  exact parse_of_mapError hactivator

/-- The sample with an activator of its own, which is given what the hook is given. -/
def activated : Module :=
  { Module.sample with activatorClass := some "com.example.GreeterActivator" }

/-- The name of the service that the hook and the activator are given is there
twice. -/
theorem activated_literals :
    ∃ runtime, Runtime.standard.resolve = .ok runtime ∧ activated.validate = .ok ()
      ∧ moduleTexts runtime activated
        = ["greeter", "setup", "log", "owner", "core", "log", "warm-up", "greeting", "home",
          "/home", "", "size", "warm-up", "warm-up", "size"]
      ∧ ∃ file tokens, unit runtime "" activated = .ok file
        ∧ Lexical.lex (file.render "\t") = some tokens
        ∧ Lexical.literals tokens = moduleTexts runtime activated := by
  obtain ⟨runtime, hresolve⟩ := Runtime.standard_resolves
  have hvalid : activated.validate = .ok () := by decide +kernel
  have hreplaces : replacesActivator runtime activated = true := by
    rw [replacesActivator, ← parse_defaultActivator hresolve]
    decide +kernel
  have htexts : moduleTexts runtime activated
      = ["greeter", "setup", "log", "owner", "core", "log", "warm-up", "greeting", "home",
        "/home", "", "size", "warm-up", "warm-up", "size"] := by
    rw [moduleTexts, hreplaces]
    rfl
  exact ⟨runtime, hresolve, hvalid, htexts,
    literals_eq_moduleTexts hresolve hvalid "" (by simp)⟩

end ModuleContainers.Container
