import ModuleContainers.Proofs.Container.Literals
import ModuleContainers.Proofs.Container.Nesting

/-!
# The structure of a container class

The source of a container class is a package clause, import statements and one
class. The brackets of the whole source are nested and balanced, and the members of
the class are a constructor; a method that makes the activator, exactly where the
module has an activator of its own; and a method that registers, exactly where
there is something to register (`container_structure`).

Members are found by reading the tokens between the braces of the class, without
knowing what has been emitted there. What is between the braces of a member may be
anything that is nested.
-/

namespace ModuleContainers.Container

open ModuleContainers.Java (ClassName CompilationUnit IsPath Outline code codeTokens listed named
  word)
open ModuleContainers.Lexical (Balanced Bracket Member Token brackets pathTokens splitMembers)
open ModuleContainers.Metadata (Module)

/-! ## Signatures -/

def classSignature (runtime : Runtime ClassName) (typeName : String) : Outline :=
  code "public class " ++ word typeName ++ code " extends " ++ named runtime.moduleContainer

def constructorSignature (typeName : String) : Outline :=
  code "public " ++ word typeName ++ code "()"

/-- A public method that overrides one of the base class. -/
def overridingSignature (signature : Outline) : Outline :=
  code "@" ++ named overrideAnnotation ++ code "public " ++ signature

def activatorSignature (runtime : Runtime ClassName) : Outline :=
  overridingSignature (named runtime.moduleActivator ++ code " createActivator("
    ++ named runtime.serviceCentral ++ code (" " ++ centralName ++ ")"))

def registerSignature (runtime : Runtime ClassName) : Outline :=
  overridingSignature (code "void onRegister(" ++ named runtime.registry
    ++ code (" " ++ registryName ++ ", ") ++ named runtime.taskContainer
    ++ code (" " ++ tasksName ++ ")"))

/-- The members that a container class declares, in order. -/
def memberSignatures (runtime : Runtime ClassName) (module : Module) : List Outline :=
  [constructorSignature module.simpleName]
    ++ (if replacesActivator runtime module then [activatorSignature runtime] else [])
    ++ if module.services = [] ∧ module.routes = [] ∧ module.tasks = [] then []
      else [registerSignature runtime]

/-- However classes are spelled, the outline goes on with what stands in front of the
block of a member: it moves brackets, and no token in it ends a member. -/
structure Heads (found left : List Bracket) (p : Outline) : Prop where
  moves : Moves found left p
  plain : ∀ spell, ∀ token ∈ p.tokens spell, token.endsMember = false

variable {a b c : List Bracket} {p q body : Outline} {runtime : Runtime ClassName}
  {spell : ClassName → String}

theorem Heads.trans (hp : Heads a b p) (hq : Heads b c q) : Heads a c (p ++ q) := by
  refine ⟨hp.moves.trans hq.moves, fun spell token htoken => ?_⟩
  rw [Outline.tokens_append] at htoken
  exact (List.mem_append.mp htoken).elim (hp.plain spell token) (hq.plain spell token)

theorem Heads.append (hp : Heads a b p) (hq : Heads [] [] q) : Heads a b (p ++ q) :=
  hp.trans ⟨fun spell stack => hq.moves spell (b ++ stack), hq.plain⟩

/-- The code has no semicolon and no closing brace. -/
def isPlain (text : String) : Bool := (codeTokens text).all fun token => !token.endsMember

theorem heads_code_on (text : String) (h : brackets a (codeTokens text) = some b)
    (hplain : isPlain text = true) : Heads a b (code text) := by
  simp only [isPlain, List.all_eq_true, Bool.not_eq_true'] at hplain
  exact ⟨moves_code_on text h, fun spell => by rw [Outline.tokens_code]; exact hplain⟩

theorem heads_code (text : String) (h : brackets [] (codeTokens text) = some b)
    (hplain : isPlain text = true) : Heads [] b (code text) :=
  heads_code_on text h hplain

theorem Heads.append_code (hp : Heads a b p) (text : String)
    (h : brackets b (codeTokens text) = some c) (hplain : isPlain text = true) :
    Heads a c (p ++ code text) :=
  hp.trans (heads_code_on text h hplain)

theorem heads_named (target : ClassName) : Heads [] [] (named target) := by
  refine ⟨nested_named target, fun spell token htoken => ?_⟩
  rw [Outline.tokens_named] at htoken
  rcases Lexical.mem_pathTokens htoken with rfl | ⟨part, -, rfl⟩ <;> rfl

theorem heads_word (name : String) : Heads [] [] (word name) :=
  ⟨nested_word name, by simp [Token.endsMember]⟩

theorem heads_class {typeName : String} : Heads [] [] (classSignature runtime typeName) :=
  (((heads_code "public class " rfl rfl).append (heads_word typeName)).append_code " extends " rfl
    rfl).append (heads_named runtime.moduleContainer)

theorem heads_constructor (typeName : String) : Heads [] [] (constructorSignature typeName) :=
  ((heads_code "public " rfl rfl).append (heads_word typeName)).append_code "()" rfl rfl

theorem heads_overriding (hp : Heads [] [] p) : Heads [] [] (overridingSignature p) :=
  (((heads_code "@" rfl rfl).append (heads_named overrideAnnotation)).append_code "public " rfl
    rfl).append hp

theorem heads_activator : Heads [] [] (activatorSignature runtime) := by
  have hname := (heads_named runtime.moduleActivator).append_code " createActivator(" rfl rfl
  exact heads_overriding ((hname.append (heads_named runtime.serviceCentral)).append_code
    (" " ++ centralName ++ ")") rfl rfl)

theorem heads_register : Heads [] [] (registerSignature runtime) := by
  have hfirst := ((heads_code "void onRegister(" rfl rfl).append
    (heads_named runtime.registry)).append_code (" " ++ registryName ++ ", ") rfl rfl
  exact heads_overriding ((hfirst.append (heads_named runtime.taskContainer)).append_code
    (" " ++ tasksName ++ ")") rfl rfl)

/-! ## Members -/

/-- The outline is members that have the signatures. -/
def HasMembers (spell : ClassName → String) (p : Outline) (signatures : List Outline) : Prop :=
  ∃ members : List Member, members.flatMap Member.tokens = p.tokens spell
    ∧ members.map Member.header = signatures.map (Outline.tokens spell)

variable {signatures more : List Outline}

theorem hasMembers_nil : HasMembers spell [] [] := ⟨[], rfl, rfl⟩

theorem HasMembers.append (hp : HasMembers spell p signatures) (hq : HasMembers spell q more) :
    HasMembers spell (p ++ q) (signatures ++ more) := by
  obtain ⟨members, htokens, hheaders⟩ := hp
  obtain ⟨others, hothers, hmore⟩ := hq
  exact ⟨members ++ others, by simp [htokens, hothers], by simp [hheaders, hmore]⟩

theorem Heads.hasMembers (hp : Heads [] [] p) (hbody : Nested body) :
    HasMembers spell (p ++ code "\x7b" ++ body ++ code "\x7d") [p] := by
  have hopen : codeTokens "\x7b" = [.symbol "\x7b"] := by decide
  have hclose : codeTokens "\x7d" = [.symbol "\x7d"] := by decide
  let member : Member :=
    { header := p.tokens spell
      block := body.tokens spell
      header_balanced := hp.moves.balanced spell
      header_plain := hp.plain spell
      block_balanced := hbody.balanced spell }
  exact ⟨[member], by simp [member, Member.tokens, hopen, hclose], rfl⟩

theorem hasMembers_constructor (module : Module) (typeName : String) :
    HasMembers spell (constructorOutline runtime module typeName)
      [constructorSignature typeName] := by
  have hsuper : AnyPhrase runtime .statements _ := phrase_super (by decide) (by decide) module
  have hopen : code "() \x7b" = code "()" ++ code "\x7b" := by decide
  have hmember : HasMembers spell _ _ := (heads_constructor typeName).hasMembers hsuper.nested
  simpa [constructorOutline, constructorSignature, hopen, List.append_assoc] using hmember

/-- A method that overrides one of the base class is one member. -/
theorem hasMembers_overriding {signature : Outline}
    (hsignature : Heads [] [] (overridingSignature signature)) (hbody : Nested body) :
    HasMembers spell (overridingOutline signature body) [overridingSignature signature] := by
  have hopen : code " \x7b" = code "\x7b" := by decide
  have hmember : HasMembers spell _ _ := hsignature.hasMembers hbody
  simpa [overridingOutline, overridingSignature, hopen, List.append_assoc] using hmember

theorem hasRegistrations_eq_false {module : Module} :
    module.hasRegistrations = false ↔
      module.services = [] ∧ module.routes = [] ∧ module.tasks = [] := by
  simp only [Module.hasRegistrations, Bool.not_eq_false', Bool.and_eq_true, List.isEmpty_iff]
  tauto

theorem hasMembers_class {module : Module} (h : module.WellNamed) :
    HasMembers spell (membersOutline runtime module module.simpleName)
      (memberSignatures runtime module) := by
  have hactivator : HasMembers spell
      ((activatorOf runtime module).elim [] (activatorOutline runtime module))
      (if replacesActivator runtime module then [activatorSignature runtime] else []) := by
    rw [← activatorOf_isSome h]
    cases activatorOf runtime module with
    | none => exact hasMembers_nil
    | some activator =>
        have hbody : AnyPhrase runtime .statements _ := phrase_activation (by decide) activator
          ((module.onCreate.map Metadata.Task.parameters).getD [])
        exact hasMembers_overriding heads_activator hbody.nested
  have hregister : HasMembers spell
      (if module.hasRegistrations then registerOutline runtime module else [])
      (if module.services = [] ∧ module.routes = [] ∧ module.tasks = [] then []
        else [registerSignature runtime]) := by
    simp only [← hasRegistrations_eq_false]
    cases module.hasRegistrations with
    | false => exact hasMembers_nil
    | true => exact hasMembers_overriding heads_register (nested_registrations h)
  exact ((hasMembers_constructor module module.simpleName).append hactivator).append hregister

/-! ## The source -/

/-- A keyword, a path and a semicolon. -/
theorem balanced_clause (before path after : String) (hbefore : Balanced (codeTokens before))
    (hafter : Balanced (codeTokens after)) :
    Balanced (codeTokens before ++ pathTokens path ++ codeTokens after) :=
  (hbefore.append (Lexical.balanced_pathTokens path)).append hafter

theorem balanced_packageTokens (package : String) :
    Balanced (CompilationUnit.packageTokens package) := by
  unfold CompilationUnit.packageTokens
  split
  · rfl
  · exact balanced_clause "package " package ";" rfl rfl

theorem balanced_importTokens (imports : List String) :
    Balanced (imports.flatMap CompilationUnit.importTokens) := by
  induction imports with
  | nil => rfl
  | cons target rest ih =>
      have hclause : Balanced (CompilationUnit.importTokens target) :=
        balanced_clause "import " target ";" rfl rfl
      exact hclause.append ih

/-- The source of an accepted module is a package clause, imports and one class. All
brackets of the source are nested and balanced, and the members of the class are a
constructor and, where there is a reason for them, the two methods. -/
theorem container_structure {names : Runtime String} {runtime : Runtime ClassName}
    (hresolve : names.resolve = .ok runtime) {module : Module} (hvalid : module.validate = .ok ())
    (banner : String) {indent : String} (hindent : ∀ c ∈ indent.toList, c = ' ' ∨ c = '\t') :
    ∃ (file : CompilationUnit) (package : String) (tokens body : List Token)
        (members : List Member),
      unit runtime banner module = .ok file
        ∧ Lexical.lex (file.render indent) = some tokens
        ∧ module.packageName? = some package
        ∧ tokens = codeTokens "package " ++ pathTokens package ++ codeTokens ";"
            ++ file.importTable.imports.flatMap CompilationUnit.importTokens
            ++ codeTokens "public class " ++ [.word module.simpleName] ++ codeTokens " extends "
            ++ pathTokens (file.importTable.nameOf runtime.moduleContainer)
            ++ [.symbol "\x7b"] ++ body ++ [.symbol "\x7d"]
        ∧ Balanced tokens
        ∧ splitMembers body = some (members.map Member.tokens)
        ∧ members.map Member.header
            = (memberSignatures runtime module).map (Outline.tokens file.importTable.nameOf) := by
  have hruntime := Runtime.wellFormed_of_resolve hresolve
  have hnamed := Module.wellNamed_of_validate hvalid
  obtain ⟨file, hfile⟩ := unit_succeeds runtime hnamed banner
  obtain ⟨hpackage, -, hentrance, hbody⟩ := reads_unit hruntime hfile
  have hparts := entranceParts_of_entrance hentrance
  have hname : file.typeName = module.simpleName := by
    rw [Module.simpleName, hparts]
  have hpackageName : module.packageName? = some file.package := by
    rw [Module.packageName?, hparts]
    rfl
  have hclause : CompilationUnit.packageTokens file.package
      = codeTokens "package " ++ pathTokens file.package ++ codeTokens ";" :=
    if_neg hpackage.ne_empty
  let spell := file.importTable.nameOf
  have hclass : HasMembers spell (membersOutline runtime module module.simpleName)
      (memberSignatures runtime module) := hasMembers_class hnamed
  obtain ⟨members, hmembers, hheaders⟩ := hclass
  -- The class is a member of the file as methods are members of the class.
  let declaration : Member :=
    { header := (classSignature runtime module.simpleName).tokens spell
      block := members.flatMap Member.tokens
      header_balanced := heads_class.moves.balanced spell
      header_plain := heads_class.plain spell
      block_balanced := Lexical.balanced_members members }
  have hopen : codeTokens " \x7b" = [.symbol "\x7b"] := by decide
  have hclose : codeTokens "\x7d" = [.symbol "\x7d"] := by decide
  have htokens : CompilationUnit.fileTokens file.package file.typeName
        (bodyOutline runtime module file.typeName)
      = CompilationUnit.packageTokens file.package
        ++ file.importTable.imports.flatMap CompilationUnit.importTokens ++ declaration.tokens := by
    rw [CompilationUnit.fileTokens_eq hbody, hname]
    simp [declaration, bodyOutline, classSignature, Member.tokens, hmembers, hopen, hclose, spell]
  refine ⟨file, file.package, _, members.flatMap Member.tokens, members, hfile,
    CompilationUnit.lex_render hpackage hbody hindent, hpackageName, ?_, ?_,
    Lexical.splitMembers_flatMap members, hheaders⟩
  · rw [htokens, hclause]
    simp [declaration, classSignature, Member.tokens, spell]
  · rw [htokens]
    exact ((balanced_packageTokens _).append (balanced_importTokens _)).append declaration.balanced

/-- A module with an activator of its own and with something to register has all three
members. -/
theorem activated_structure :
    ∃ runtime, Runtime.standard.resolve = .ok runtime ∧ activated.validate = .ok ()
      ∧ memberSignatures runtime activated
        = [constructorSignature "GreeterModule", activatorSignature runtime,
          registerSignature runtime]
      ∧ ∃ (file : CompilationUnit) (package : String) (tokens body : List Token)
          (members : List Member),
        unit runtime "\x7d" activated = .ok file
          ∧ Lexical.lex (file.render "\t") = some tokens
          ∧ activated.packageName? = some package
          ∧ tokens = codeTokens "package " ++ pathTokens package ++ codeTokens ";"
              ++ file.importTable.imports.flatMap CompilationUnit.importTokens
              ++ codeTokens "public class " ++ [.word activated.simpleName]
              ++ codeTokens " extends "
              ++ pathTokens (file.importTable.nameOf runtime.moduleContainer)
              ++ [.symbol "\x7b"] ++ body ++ [.symbol "\x7d"]
          ∧ Balanced tokens
          ∧ splitMembers body = some (members.map Member.tokens)
          ∧ members.map Member.header
              = (memberSignatures runtime activated).map
                  (Outline.tokens file.importTable.nameOf) := by
  obtain ⟨runtime, hresolve⟩ := Runtime.standard_resolves
  have hvalid : activated.validate = .ok () := by decide +kernel
  have hreplaces : replacesActivator runtime activated = true := by
    rw [replacesActivator, ← parse_defaultActivator hresolve]
    decide +kernel
  have hsignatures : memberSignatures runtime activated
      = [constructorSignature "GreeterModule", activatorSignature runtime,
        registerSignature runtime] := by
    have hname : activated.simpleName = "GreeterModule" := by decide +kernel
    rw [memberSignatures, hreplaces, hname]
    rfl
  exact ⟨runtime, hresolve, hvalid, hsignatures,
    container_structure hresolve hvalid "\x7d" (by simp)⟩

end ModuleContainers.Container
