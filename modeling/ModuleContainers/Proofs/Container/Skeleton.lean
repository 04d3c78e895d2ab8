import ModuleContainers.Proofs.Container.Completeness
import ModuleContainers.Proofs.Container.FreeText

/-!
# Free text is only ever the value of a literal

Names, descriptions, rules and attributes are free text: nothing checks what is in
them. The skeleton of a module is the module without its free text. Two modules
with the same skeleton give sources with the same tokens, up to the values of
string literals (`lex_eq_of_skeleton_eq`), so nothing that is put into a free text
can become code.
-/

namespace ModuleContainers.Container

open ModuleContainers.Java (ClassName)
open ModuleContainers.Lexical (Token)
open ModuleContainers.Metadata (Module)

/-! ## Two modules with one skeleton -/

/-- Modules that differ in their free text only, and banners of any kind, give
sources that have the same tokens up to the values of string literals. -/
theorem lex_eq_of_skeleton_eq {names : Runtime String} {runtime : Runtime ClassName}
    (hresolve : names.resolve = .ok runtime) {module module' : Module}
    (hvalid : module.validate = .ok ()) (hvalid' : module'.validate = .ok ())
    (hskeleton : module.skeleton = module'.skeleton) (banner banner' : String) {indent : String}
    (hindent : ∀ c ∈ indent.toList, c = ' ' ∨ c = '\t') :
    ∃ file file' tokens tokens',
      unit runtime banner module = .ok file ∧ unit runtime banner' module' = .ok file'
        ∧ Lexical.lex (file.render indent) = some tokens
        ∧ Lexical.lex (file'.render indent) = some tokens'
        ∧ tokens.map Token.masked = tokens'.map Token.masked := by
  have hruntime := Runtime.wellFormed_of_resolve hresolve
  have hnamed := Module.wellNamed_of_validate hvalid
  have hnamed' := Module.wellNamed_of_validate hvalid'
  obtain ⟨file, hfile⟩ := unit_succeeds runtime hnamed banner
  obtain ⟨file', hfile'⟩ := unit_succeeds runtime hnamed' banner'
  obtain ⟨hpackage, -, hentrance, hbody⟩ := reads_unit hruntime hfile
  obtain ⟨hpackage', -, hentrance', hbody'⟩ := reads_unit hruntime hfile'
  have hclass : module.entranceClass = module'.entranceClass :=
    show module.skeleton.entranceClass = module'.skeleton.entranceClass by rw [hskeleton]
  have hparts : module.entranceParts = module'.entranceParts := by
    rw [Module.entranceParts, hclass, Module.entranceParts]
  rw [entranceParts_of_entrance hentrance, entranceParts_of_entrance hentrance'] at hparts
  obtain ⟨hp, ht⟩ := Prod.mk.inj (Option.some.inj hparts)
  refine ⟨file, file', _, _, hfile, hfile', Java.CompilationUnit.lex_render hpackage hbody hindent,
    Java.CompilationUnit.lex_render hpackage' hbody' hindent, ?_⟩
  rw [hp, ht]
  refine Java.CompilationUnit.masked_fileTokens _ _ ?_
  rw [(fills_body runtime hnamed file'.typeName).masked, hskeleton,
    (fills_body runtime hnamed' file'.typeName).masked]

/-- A sample module, where free texts try to get out of comments and literals. -/
def intruder : Module :=
  { Module.sample with
    name := "\"); System.exit(1); (\""
    description := "*/ class Intruder \x7b /*"
    attributes := [⟨"\\", "\\u0022"⟩]
    services := Module.sample.services.map fun service =>
      { service with description := "\\u000a System.exit(1);" }
    routes := Module.sample.routes.map fun route => { route with rules := ["\\\\u000d"] } }

/-- The intruder says nothing that the sample does not say. -/
theorem intruder_contained :
    ∃ runtime, Runtime.standard.resolve = .ok runtime
      ∧ Module.sample.validate = .ok () ∧ intruder.validate = .ok ()
      ∧ Module.sample.skeleton = intruder.skeleton
      ∧ ∃ file file' tokens tokens', unit runtime "" Module.sample = .ok file
        ∧ unit runtime "*/ //" intruder = .ok file'
        ∧ Lexical.lex (file.render "  ") = some tokens
        ∧ Lexical.lex (file'.render "  ") = some tokens'
        ∧ tokens.map Token.masked = tokens'.map Token.masked := by
  obtain ⟨runtime, hresolve⟩ := Runtime.standard_resolves
  have hvalid : intruder.validate = .ok () := by decide +kernel
  have hskeleton : Module.sample.skeleton = intruder.skeleton := by rfl
  exact ⟨runtime, hresolve, Module.sample_valid, hvalid, hskeleton,
    lex_eq_of_skeleton_eq hresolve Module.sample_valid hvalid hskeleton "" "*/ //" (by simp)⟩

end ModuleContainers.Container
