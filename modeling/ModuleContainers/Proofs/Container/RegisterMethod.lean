import ModuleContainers.Proofs.Container.Phrases
import ModuleContainers.Proofs.Java.CompilationUnit
import ModuleContainers.Proofs.Lexical.Statements

/-!
# The method that registers

In the tokens of a container class, the body of `onRegister` is what the module has to
register. `methodBody` looks for the word `void`, a name and an open bracket, so it could be
misled by another `void` before the method. There is none: the word is no identifier, so
neither a class, a member nor a package is called so, and no phrase has it of its own
(`Phrase.voidFree`).

The class is split there: what stands before the method is free of the word
(`voidFree_front`), the method itself is its signature and a balanced body, and nothing but
the brace of the class comes behind it (`methodBody_class`).
-/

namespace ModuleContainers.Container

open ModuleContainers.Java (ClassName CompilationUnit IsPath Lexeme Outline code codeTokens
  isIdentifier listed named number quoted word)
open ModuleContainers.Lexical (Token depthAfter methodBody methodBody_append methodBody_eq_none
  methodBody_signature pathTokens symbol_not_mem_path)
open ModuleContainers.Metadata (Dependency Module Task)

/-! ## Outlines without the word -/

/-- The outline has no method that gives nothing back. Classes stay symbolic in it, and what
they are spelled like is settled by `VoidFree.not_mem_tokens`. -/
def VoidFree (outline : Outline) : Prop := Lexeme.token (.word "void") ∉ outline

variable {p q : Outline} {runtime : Runtime ClassName}

theorem voidFree_nil : VoidFree [] := List.not_mem_nil

theorem VoidFree.append (hp : VoidFree p) (hq : VoidFree q) : VoidFree (p ++ q) := by
  intro hmem
  rcases List.mem_append.mp hmem with h | h
  · exact hp h
  · exact hq h

/-- Known code is looked through. -/
theorem voidFree_code (text : String) (h : (codeTokens text).contains (.word "void") = false) :
    VoidFree (code text) := by
  intro hmem
  obtain ⟨token, htoken, heq⟩ := List.mem_map.mp hmem
  cases heq
  rw [List.contains_iff_mem.mpr htoken] at h
  cases h

theorem VoidFree.append_code (hp : VoidFree p) (text : String)
    (h : (codeTokens text).contains (.word "void") = false) : VoidFree (p ++ code text) :=
  hp.append (voidFree_code text h)

theorem voidFree_quoted (value : String) : VoidFree (quoted value) := by
  simp [VoidFree, quoted]

theorem voidFree_named (target : ClassName) : VoidFree (named target) := by
  simp [VoidFree, named]

theorem voidFree_number (i : Int) : VoidFree (number i) := by
  cases i <;> simp [VoidFree, number, Lexical.numberTokens]

theorem voidFree_listed {items : List Outline} (h : ∀ item ∈ items, VoidFree item) :
    VoidFree (listed items) :=
  Java.listed_induction voidFree_nil (voidFree_code "," rfl) VoidFree.append h

/-- A class is spelled by a path, the parts of which are identifiers. -/
theorem VoidFree.not_mem_tokens (hp : VoidFree p) {spell : ClassName → String}
    (hspell : ∀ c ∈ p.references, IsPath (spell c)) : .word "void" ∉ p.tokens spell := by
  intro hmem
  obtain ⟨lexeme, hlexeme, htoken⟩ := List.mem_flatMap.mp hmem
  cases lexeme with
  | token token =>
      obtain rfl := List.mem_singleton.mp htoken
      exact hp hlexeme
  | reference target =>
      exact Java.word_not_mem_path (by decide)
        (hspell target (List.mem_filterMap.mpr ⟨_, hlexeme, rfl⟩)) htoken

theorem voidFree_flatten {items : List Outline} (h : ∀ item ∈ items, VoidFree item) :
    VoidFree items.flatten := by
  rw [← List.flatMap_id]
  exact Java.flatMap_closed voidFree_nil VoidFree.append h

theorem voidFree_class (target : ClassName) : VoidFree (classOutline target) :=
  (voidFree_named target).append_code ".class" rfl

/-- Local names and keywords are no identifiers that were checked, so their spelling is
compared. -/
theorem voidFree_of_ne {name : String} (h : name ≠ "void") : VoidFree (word name) := by
  simpa [VoidFree, word, eq_comm] using h

/-- A checked name is not the keyword. -/
theorem voidFree_word {name : String} (h : isIdentifier name = true) : VoidFree (word name) := by
  refine voidFree_of_ne ?_
  rintro rfl
  revert h
  decide

/-! ## Phrases -/

variable {excluded : List Feature} {kind : Kind} {closing : String}

theorem voidFree_text {group : List String} (hgroup : group ∈ phraseTexts) {text : String}
    (htext : text ∈ group) : VoidFree (code text) :=
  voidFree_code text (reserved_not_in_text hgroup htext (by decide))

theorem Opening.voidFree (h : Opening runtime excluded p closing) : VoidFree p := by
  cases h with
  | creation target =>
      exact ((voidFree_code "new " rfl).append (voidFree_named target)).append_code "(" rfl
  | array _ target =>
      exact ((voidFree_code "new " rfl).append (voidFree_named target)).append_code "[]\x7b" rfl
  | helper _ htext =>
      exact (voidFree_named _).append (voidFree_text (by decide) htext)
  | factory _ source hname =>
      exact (((voidFree_code "() -> " rfl).append (voidFree_named source)).append
        ((voidFree_code "." rfl).append (voidFree_word hname))).append_code "(" rfl
  | known htext _ => exact voidFree_text (by decide) (call_mem_texts htext)

/-- The primitive types are those that a value can have, and `void` is none of them. -/
theorem TypePhrase.voidFree (h : TypePhrase p) : VoidFree p := by
  cases h with
  | primitive h =>
      have htable : ∀ keyword ∈ Java.TypeName.primitives, keyword ≠ "void" := by decide
      exact voidFree_of_ne (htable _ h)
  | reference target => exact voidFree_named target
  | array target => exact (voidFree_named target).append_code "[]" rfl
  | bounded target bound =>
      exact ((voidFree_named target).append_code "<? extends " rfl).append
        ((voidFree_named bound).append_code ">" rfl)

/-- No phrase declares a method. -/
theorem Phrase.voidFree (h : Phrase runtime excluded kind p) : VoidFree p := by
  induction h with
  | literal value => exact voidFree_quoted value
  | number i => exact voidFree_number i
  | atom h => exact voidFree_of_ne (h.ne (by decide))
  | helper _ htext =>
      exact (voidFree_named _).append (voidFree_text (by decide) htext)
  | fetch _ htext target name =>
      have hcall := voidFree_text (by decide) htext
      exact (((hcall.append (voidFree_class target)).append_code ", " rfl).append
        (voidFree_quoted name)).append_code ")" rfl
  | call hopening _ _ _ hfront hrest =>
      have hitems := voidFree_listed (List.forall_mem_append.mpr ⟨hfront, hrest⟩)
      refine (hopening.voidFree.append hitems).append_code _ ?_
      cases hopening <;> rfl
  | callback _ htext _ hbody =>
      have hlambda := voidFree_text (by decide) htext
      exact ((hlambda.append_code "\x7b" rfl).append hbody).append_code "\x7d" rfl
  | supplier _ _ hresult => exact (voidFree_code "() -> " rfl).append hresult
  | classObject target => exact voidFree_class target
  | argument _ hitem => exact hitem
  | known htext => exact voidFree_text (by decide) htext
  | evaluation hbefore _ hchain =>
      have hopen := voidFree_text (by decide) hbefore
      exact (hopen.append (voidFree_flatten hchain)).append_code ";" rfl
  | declaration htype hname _ hvalue =>
      have hlocal := voidFree_of_ne (hname.ne (by decide))
      exact ((htype.voidFree.append (hlocal.append_code "=" rfl)).append hvalue).append_code ";" rfl
  | reading htype hname hmember hending =>
      have hlocal := voidFree_of_ne (hname.ne (by decide))
      have hvalue := ((voidFree_code "action." rfl).append (voidFree_word hmember)).append
        (voidFree_text (by decide) hending)
      exact (htype.voidFree.append (hlocal.append_code "=" rfl)).append hvalue
  | nothing => exact voidFree_nil
  | both _ _ hp hq => exact hp.append hq

/-! ## The constructor and the activator -/

/-- A constructor has no type at all. -/
theorem voidFree_constructor (module : Module) {typeName : String}
    (hname : isIdentifier typeName = true) :
    VoidFree (constructorOutline runtime module typeName) := by
  have hsuper : AnyPhrase runtime .statements _ := phrase_super (by decide) (by decide) module
  have hsignature := ((voidFree_code "public " rfl).append (voidFree_word hname)).append_code
    "() \x7b" rfl
  exact (hsignature.append hsuper.voidFree).append_code "\x7d" rfl

/-- The method that makes the activator gives back a class. -/
theorem voidFree_activator (module : Module) (activator : Option ClassName) :
    VoidFree (activator.elim [] (activatorOutline runtime module)) := by
  cases activator with
  | none => exact voidFree_nil
  | some target =>
      have hoverride := (voidFree_code "@" rfl).append (voidFree_named overrideAnnotation)
      have hsignature := (((voidFree_named runtime.moduleActivator).append_code " createActivator("
        rfl).append (voidFree_named runtime.serviceCentral)).append_code (" " ++ centralName ++ ")")
        rfl
      have hopen := ((voidFree_code "public " rfl).append hsignature).append_code " \x7b" rfl
      have hbody : AnyPhrase runtime .statements _ := phrase_activation (by decide) target
        ((module.onCreate.map Task.parameters).getD [])
      exact ((hoverride.append hopen).append hbody.voidFree).append_code "\x7d" rfl

/-! ## The method in the class -/

/-- The class up to the method that registers. -/
def frontOutline (runtime : Runtime ClassName) (module : Module) (typeName : String) : Outline :=
  (code "public class " ++ word typeName ++ code " extends " ++ named runtime.moduleContainer
      ++ code " \x7b")
    ++ constructorOutline runtime module typeName
    ++ (activatorOf runtime module).elim [] (activatorOutline runtime module)

theorem voidFree_front (module : Module) {typeName : String}
    (hname : isIdentifier typeName = true) : VoidFree (frontOutline runtime module typeName) := by
  have hopen := ((((voidFree_code "public class " rfl).append (voidFree_word hname)).append_code
    " extends " rfl).append (voidFree_named runtime.moduleContainer)).append_code " \x7b" rfl
  exact (hopen.append (voidFree_constructor module hname)).append (voidFree_activator module _)

/-- The clauses of a file are keywords and paths. -/
theorem void_not_mem_clauses {package : String} (hpackage : IsPath package) {imports : List String}
    (himports : ∀ target ∈ imports, IsPath target) :
    .word "void" ∉ CompilationUnit.packageTokens package
      ++ imports.flatMap CompilationUnit.importTokens :=
  Java.word_not_mem_clauses (by decide) (by decide) (by decide) hpackage himports

/-- The tokens of the parameters of the method. -/
def parameterTokens (runtime : Runtime ClassName) (spell : ClassName → String) : List Token :=
  .symbol "(" :: pathTokens (spell runtime.registry) ++ codeTokens (" " ++ registryName ++ ", ")
    ++ pathTokens (spell runtime.taskContainer) ++ codeTokens (" " ++ tasksName ++ ")")

/-- The first brace behind the signature is the one that opens the body. -/
theorem brace_not_mem_parameters (spell : ClassName → String) :
    .symbol "\x7b" ∉ parameterTokens runtime spell := by
  have hpath : ∀ text, .symbol "\x7b" ∉ pathTokens text := symbol_not_mem_path (by decide)
  have hregistry : .symbol "\x7b" ∉ codeTokens (" " ++ registryName ++ ", ") := by decide
  have htasks : .symbol "\x7b" ∉ codeTokens (" " ++ tasksName ++ ")") := by decide
  simp [parameterTokens, hpath, hregistry, htasks]

/-- The method as its signature and its body, as `methodBody` takes it apart. -/
theorem tokens_register (module : Module) (spell : ClassName → String) :
    (registerOutline runtime module).tokens spell
      = (code "@" ++ named overrideAnnotation ++ code "public ").tokens spell
        ++ .word "void" :: .word "onRegister" :: (parameterTokens runtime spell
          ++ .symbol "\x7b" :: ((registrationsOutline runtime module).tokens spell
            ++ [.symbol "\x7d"])) := by
  have hcall : codeTokens "void onRegister(" = [.word "void", .word "onRegister", .symbol "("] := by
    decide
  have hopen : codeTokens " \x7b" = [.symbol "\x7b"] := by decide
  have hclose : codeTokens "\x7d" = [.symbol "\x7d"] := by decide
  simp [registerOutline, overridingOutline, parameterTokens, hcall, hopen, hclose]

/-- The body of the method is what there is to register; without anything to
register there is no method. -/
theorem methodBody_class {clauses : List Token} (hclauses : .word "void" ∉ clauses)
    {module : Module} {typeName : String} (hname : isIdentifier typeName = true)
    {spell : ClassName → String}
    (hspell : ∀ c ∈ (bodyOutline runtime module typeName).references, IsPath (spell c))
    (hbalanced : depthAfter 0 ((registrationsOutline runtime module).tokens spell) = some 0) :
    methodBody "onRegister" (clauses ++ (bodyOutline runtime module typeName).tokens spell)
      = if module.hasRegistrations then some ((registrationsOutline runtime module).tokens spell)
        else none := by
  have hbody : bodyOutline runtime module typeName
      = frontOutline runtime module typeName
        ++ ((if module.hasRegistrations then registerOutline runtime module else [])
          ++ code "\x7d") := by
    simp [bodyOutline, membersOutline, frontOutline]
  have hfront : .word "void" ∉ (frontOutline runtime module typeName).tokens spell := by
    refine (voidFree_front module hname).not_mem_tokens fun c hc => hspell c ?_
    rw [hbody, Outline.references_append]
    exact List.mem_append_left _ hc
  rw [methodBody_append hclauses, hbody, Outline.tokens_append, methodBody_append hfront]
  split
  · next hsome =>
      -- The annotation and the modifier stand between the front and the word; their class is one
      -- of those in the body, so it has a path too.
      have hmodifiers : .word "void"
          ∉ (code "@" ++ named overrideAnnotation ++ code "public ").tokens spell := by
        have hfree := ((voidFree_code "@" rfl).append
          (voidFree_named overrideAnnotation)).append_code "public " rfl
        refine hfree.not_mem_tokens fun c hc => hspell c ?_
        rw [hbody, if_pos hsome, registerOutline, overridingOutline]
        simp only [Outline.references_append, List.mem_append] at hc ⊢
        tauto
      rw [Outline.tokens_append, tokens_register, List.append_assoc, methodBody_append hmodifiers]
      simp only [List.cons_append, List.append_assoc]
      exact methodBody_signature (brace_not_mem_parameters spell) hbalanced _
  -- Without the method only the brace of the class is left.
  · have hclose : .word "void" ∉ (code "\x7d").tokens spell := by
      rw [Outline.tokens_code]
      decide
    rw [List.nil_append]
    exact methodBody_eq_none hclose

end ModuleContainers.Container
