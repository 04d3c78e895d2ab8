import Mathlib.Data.List.Nodup
import ModuleContainers.Proofs.Container.Completeness
import ModuleContainers.Proofs.Container.Nesting

/-!
# Outputs are announced as they are published

The outputs of a task are in its statements twice: in front of the task, where they are
announced, and in the callback that runs the task, where they are published. The two
are written by walks of their own. Here they are read back from the tokens, each by
the words of its call, and both are what the task puts out, in the order of the
metadata (`outputs_published`).

A call is found wherever its words stand (`callsOf`), so no call is missed. Most parts
of an outline have none, whatever stands behind them (`Silent`), and for the others
`Calls` says what the calls are given. The callback is read as a list of statements
(`stepsOf`): each output gets a local of its own, and the statements behind it publish
that local.
-/

namespace ModuleContainers.Container

open ModuleContainers.Java (ClassName Fragment Lexeme Outline TypeName code codeTokens listed named
  number quoted word)
open ModuleContainers.Metadata (Accessor Dependency NamesType Output Task)
open ModuleContainers.Metadata.Module (checkMemberName_eq_ok)
open Outcome (bind_eq_ok mapError_eq_ok pure_eq_ok)

/-! ## Calls -/

/-- What stands behind each place that has the words of the call. -/
def callsOf (call : Outline) : Outline → List Outline
  | [] => []
  | lexeme :: rest =>
      (if call <+: lexeme :: rest then [(lexeme :: rest).drop call.length] else [])
        ++ callsOf call rest

/-- The class and the name that a call is given first, as in `C.class, "n"`. Other calls with
the same words would give nothing, and so would show. -/
def classAndName? : Outline → Option (ClassName × String)
  | .reference target :: .token (.symbol ".") :: .token (.word "class") :: .token (.symbol ",")
      :: .token (.literal name) :: _ => some (target, name)
  | _ => none

/-- What each of the calls is given. -/
def givenTo (call outline : Outline) : List (Option (ClassName × String)) :=
  (callsOf call outline).map classAndName?

def announceCall : Outline := code "registry.registerTaskOutputService("

def publishCall : Outline := code "task.getOutputs().output("

/-- The call that a task is given its callback by, up to the body. -/
def callbackCall : Outline := code "doLast((task) -> \x7b"

/-! ## The callback -/

def semicolon : Lexeme := .token (.symbol ";")

def openingBrace : Lexeme := .token (.symbol "\x7b")

def closingBrace : Lexeme := .token (.symbol "\x7d")

/-- The lexemes up to the brace that closes the block they are in. -/
def insideBlock : Nat → Outline → Outline
  | _, [] => []
  | depth, lexeme :: rest =>
      if lexeme = openingBrace then lexeme :: insideBlock (depth + 1) rest
      else if lexeme = closingBrace then
        match depth with
        | 0 => []
        | depth + 1 => lexeme :: insideBlock depth rest
      else lexeme :: insideBlock depth rest

/-- The body of the first callback that runs a task. -/
def callback? (outline : Outline) : Option Outline :=
  (callsOf callbackCall outline).head?.map (insideBlock 0)

/-- A statement of a callback. -/
inductive Step where
  /-- A local gets a value. -/
  | declare (type : Outline) (name : String) (value : Outline)
  /-- An output is published as a class; a local holds its value. -/
  | publish (target : ClassName) (outputName holder : String)
  | other (statement : Outline)
  deriving Repr, DecidableEq

/-- A publication by what its call is given. -/
def Step.ofGiven? : Outline → Option Step
  | [.reference target, .token (.symbol "."), .token (.word "class"), .token (.symbol ","),
      .token (.literal outputName), .token (.symbol ","), .token (.word holder),
      .token (.symbol ")")] => some (.publish target outputName holder)
  | _ => none

/-- A statement by its form: a local that is declared, a publication, or neither. -/
def Step.read : Outline → Step
  | type :: .token (.word name) :: .token (.symbol "=") :: value => .declare [type] name value
  | statement =>
      if publishCall <+: statement then
        (Step.ofGiven? (statement.drop publishCall.length)).getD (.other statement)
      else .other statement

def Step.declared? : Step → Option String
  | .declare _ name _ => some name
  | _ => none

/-- The statements of a callback. A semicolon alone is none. -/
def stepsOf (body : Outline) : List Step :=
  ((body.splitOn semicolon).filter (· ≠ [])).map Step.read

/-! ## Silent parts -/

/-- None of the calls starts in the part, whatever stands behind it. -/
def Silent (call p : Outline) : Prop := ∀ rest, callsOf call (p ++ rest) = callsOf call rest

/-- Neither outline starts with the other one. -/
def apart : Outline → Outline → Bool
  | first :: rest, other :: others => first != other || apart rest others
  | _, _ => false

/-- `Silent` as a computation, for parts that are known. -/
def isSilent (call : Outline) : Outline → Bool
  | [] => true
  | lexeme :: rest => apart call (lexeme :: rest) && isSilent call rest

variable {call p q : Outline}

/-- Outlines that differ in a lexeme that both have differ there whatever comes behind them. -/
theorem not_prefix_of_apart (h : apart call p = true) (rest : Outline) : ¬ call <+: p ++ rest := by
  induction call generalizing p with
  | nil => cases p <;> cases h
  | cons first more ih =>
      cases p with
      | nil => cases h
      | cons other others =>
          rw [List.cons_append, List.cons_prefix_cons]
          rintro ⟨rfl, hmore⟩
          rw [apart, bne_self_eq_false, Bool.false_or] at h
          exact ih h hmore

/-- By induction on the part: at each place the call and the part differ before either ends. -/
theorem silent_of_isSilent (h : isSilent call p = true) : Silent call p := by
  intro rest
  induction p with
  | nil => rfl
  | cons lexeme more ih =>
      rw [isSilent, Bool.and_eq_true] at h
      rw [List.cons_append, callsOf, ih h.2, if_neg, List.nil_append]
      exact not_prefix_of_apart h.1 rest

/-- Silence is about whatever stands behind, which may be another part. -/
theorem Silent.append (hp : Silent call p) (hq : Silent call q) : Silent call (p ++ q) := by
  intro rest
  rw [List.append_assoc, hp, hq]

theorem silent_flatMap {α : Type} {outline : α → Outline} {items : List α}
    (h : ∀ item ∈ items, Silent call (outline item)) : Silent call (items.flatMap outline) :=
  Java.flatMap_closed (fun _ => rfl) Silent.append h

theorem silent_flatten {items : List Outline} (h : ∀ item ∈ items, Silent call item) :
    Silent call items.flatten := by
  rw [← List.flatMap_id]
  exact silent_flatMap h

/-- The calls that are looked for. -/
def lookedFor : List Outline := [announceCall, publishCall, callbackCall]

/-- None of the calls that are looked for starts in the part. -/
def Quiet (p : Outline) : Prop := ∀ call ∈ lookedFor, Silent call p

theorem Quiet.append (hp : Quiet p) (hq : Quiet q) : Quiet (p ++ q) :=
  fun call hcall => (hp call hcall).append (hq call hcall)

theorem quiet_of_isSilent (h : lookedFor.all (isSilent · p) = true) : Quiet p :=
  fun call hcall => silent_of_isSilent (List.all_eq_true.mp h call hcall)

theorem quiet_nil : Quiet [] := fun _ _ _ => rfl

theorem quiet_code (text : String) (h : lookedFor.all (isSilent · (code text)) = true) :
    Quiet (code text) := quiet_of_isSilent h

theorem Quiet.append_code (hp : Quiet p) (text : String)
    (h : lookedFor.all (isSilent · (code text)) = true) : Quiet (p ++ code text) :=
  hp.append (quiet_code text h)

theorem announceCall_eq : announceCall
    = [.token (.word "registry"), .token (.symbol "."), .token (.word "registerTaskOutputService"),
      .token (.symbol "(")] := by
  decide

theorem publishCall_eq : publishCall
    = [.token (.word "task"), .token (.symbol "."), .token (.word "getOutputs"),
      .token (.symbol "("), .token (.symbol ")"), .token (.symbol "."), .token (.word "output"),
      .token (.symbol "(")] := by
  decide

theorem callbackCall_eq : callbackCall
    = [.token (.word "doLast"), .token (.symbol "("), .token (.symbol "("), .token (.word "task"),
      .token (.symbol ")"), .token (.symbol "->"), .token (.symbol "\x7b")] := by
  decide

/-- Every call starts with a word. -/
theorem quiet_of_no_word (h : ∀ name, Lexeme.token (.word name) ∉ p) : Quiet p := by
  induction p with
  | nil => exact quiet_nil
  | cons lexeme rest ih =>
      have hrest := ih fun name hmem => h name (List.mem_cons_of_mem _ hmem)
      have hlexeme : ∀ name, Lexeme.token (.word name) ≠ lexeme := by
        rintro name rfl
        exact h name (List.mem_cons_self ..)
      refine Quiet.append (p := [lexeme]) (quiet_of_isSilent ?_) hrest
      simp [lookedFor, announceCall_eq, publishCall_eq, callbackCall_eq, isSilent, apart, hlexeme]

theorem quiet_quoted (value : String) : Quiet (quoted value) :=
  quiet_of_no_word (by simp [quoted])

theorem quiet_named (target : ClassName) : Quiet (named target) :=
  quiet_of_no_word (by simp [named])

theorem quiet_number (i : Int) : Quiet (number i) := by
  refine quiet_of_no_word fun name => ?_
  cases i <;> simp [number, Lexical.numberTokens]

theorem quiet_class (target : ClassName) : Quiet (classOutline target) :=
  (quiet_named target).append_code ".class" rfl

/-- Any word may be the name of a local. What stands behind it tells that no call starts
there. -/
theorem quiet_assign (name : String) : Quiet (word name ++ code "=") := by
  have hcode : code "=" = [.token (.symbol "=")] := by decide
  refine quiet_of_isSilent ?_
  simp [lookedFor, announceCall_eq, publishCall_eq, callbackCall_eq, isSilent, apart, hcode, word]

/-- The same holds of the member that an output is read from. -/
theorem quiet_member (member : String) {ending : String} (hending : ending ∈ [";", "();"]) :
    Quiet (code "action." ++ word member ++ code ending) := by
  have hcodes : code "action." = [.token (.word "action"), .token (.symbol ".")]
      ∧ code ";" = [.token (.symbol ";")]
      ∧ code "();" = [.token (.symbol "("), .token (.symbol ")"), .token (.symbol ";")] := by decide
  refine quiet_of_isSilent ?_
  simp only [List.mem_cons, List.not_mem_nil, or_false] at hending
  rcases hending with rfl | rfl <;>
    simp [lookedFor, announceCall_eq, publishCall_eq, callbackCall_eq, isSilent, apart, hcodes,
      word]

section Phrases

variable {runtime : Runtime ClassName} {feature : Feature} {kind : Kind} {closing : String}

/-- The calls that are looked for, each with the feature of the phrases that have it. -/
def markedCalls : List (Outline × Feature) :=
  [(announceCall, .registration), (publishCall, .publication), (callbackCall, .callback)]

/-- The tables of the calls and of their features agree. -/
theorem mem_lookedFor_of_marked (hcall : (call, feature) ∈ markedCalls) : call ∈ lookedFor := by
  have htable : ∀ entry ∈ markedCalls, entry.1 ∈ lookedFor := by decide
  exact htable _ hcall

/-- A call of another kind has other words. The closing bracket stands behind its items, so it
is looked at by itself. -/
theorem Opening.silent (hcall : (call, feature) ∈ markedCalls)
    (h : Opening runtime [feature, .factory] p closing) :
    Silent call p ∧ Silent call (code closing) := by
  have hlooked := mem_lookedFor_of_marked hcall
  have hround : Quiet (code ")") := quiet_code ")" rfl
  cases h with
  | creation target =>
      exact ⟨((quiet_code "new " rfl).append (quiet_named target)).append_code "(" rfl call hlooked,
        hround call hlooked⟩
  | array _ target =>
      have hcurly : Quiet (code "\x7d") := quiet_code "\x7d" rfl
      exact ⟨((quiet_code "new " rfl).append (quiet_named target)).append_code "[]\x7b" rfl call
        hlooked, hcurly call hlooked⟩
  | helper _ htext =>
      have htable : ∀ text ∈ helperCalls, lookedFor.all (isSilent · (code text)) = true := by decide
      exact ⟨(quiet_named _).append_code _ (htable _ htext) call hlooked, hround call hlooked⟩
  | factory hfactory => exact absurd (by simp) hfactory
  | known htext hother =>
      have htable : ∀ entry ∈ markedCalls, ∀ known ∈ knownCalls, known.2 ≠ entry.2 →
          isSilent entry.1 (code known.1) = true := by decide +kernel
      have hne := List.ne_of_not_mem_cons hother
      exact ⟨silent_of_isSilent (htable (_, _) hcall (_, _) htext hne), hround call hlooked⟩

theorem TypePhrase.quiet (h : TypePhrase p) : Quiet p := by
  cases h with
  | primitive h =>
      have htable : ∀ keyword ∈ TypeName.primitives,
          lookedFor.all (isSilent · (word keyword)) = true := by decide
      exact quiet_of_isSilent (htable _ h)
  | reference target => exact quiet_named target
  | array target => exact (quiet_named target).append_code "[]" rfl
  | bounded target bound =>
      exact ((quiet_named target).append_code "<? extends " rfl).append
        ((quiet_named bound).append_code ">" rfl)

/-- A name that emitters give is no first word of a call that is looked for. -/
theorem IsAtom.quiet {name : String} (h : IsAtom name) : Quiet (word name) := by
  have hne : ∀ marked ∈ markedWords, Lexeme.token (.word marked) ≠ .token (.word name) := by
    rintro marked hmarked heq
    exact h.ne hmarked (by simpa [eq_comm] using heq)
  refine quiet_of_isSilent ?_
  simp [lookedFor, announceCall_eq, publishCall_eq, callbackCall_eq, isSilent, apart, word,
    hne "registry" (by decide), hne "task" (by decide), hne "doLast" (by decide)]

/-- A call is in no phrase that does not have its feature. Of a static method it is not
known what it is called. -/
theorem Phrase.silent (hcall : (call, feature) ∈ markedCalls)
    (h : Phrase runtime [feature, .factory] kind p) : Silent call p := by
  have hlooked := mem_lookedFor_of_marked hcall
  have hquiet : ∀ {q}, Quiet q → Silent call q := fun hq => hq call hlooked
  induction h with
  | literal value => exact hquiet (quiet_quoted value)
  | number i => exact hquiet (quiet_number i)
  | atom h => exact hquiet h.quiet
  | helper _ htext =>
      have htable : ∀ text ∈ helperValues, lookedFor.all (isSilent · (code text)) = true := by
        decide +kernel
      exact hquiet ((quiet_named _).append_code _ (htable _ htext))
  | fetch _ htext target name =>
      have htable : ∀ text ∈ accessCalls, lookedFor.all (isSilent · (code text)) = true := by
        decide +kernel
      exact hquiet (((((quiet_code _ (htable _ htext)).append (quiet_class target)).append_code ", "
        rfl).append (quiet_quoted name)).append_code ")" rfl)
  | call hopening _ _ _ hfront hrest =>
      obtain ⟨hopen, hclose⟩ := hopening.silent hcall
      have hcomma := hquiet (quiet_code "," rfl)
      have hitems : Silent call (listed _) := Java.listed_induction (fun _ => rfl) hcomma
        Silent.append (List.forall_mem_append.mpr ⟨hfront, hrest⟩)
      exact (hopen.append hitems).append hclose
  | callback _ htext _ hbody =>
      have htable : ∀ text ∈ lambdas, lookedFor.all (isSilent · (code text)) = true := by decide
      have hopen := hquiet ((quiet_code _ (htable _ htext)).append_code "\x7b" rfl)
      exact (hopen.append hbody).append (hquiet (quiet_code "\x7d" rfl))
  | supplier _ _ hresult => exact (hquiet (quiet_code "() -> " rfl)).append hresult
  | classObject target => exact hquiet (quiet_class target)
  | argument _ hitem => exact hitem
  | known htext =>
      have htable : ∀ text ∈ knownStatements, lookedFor.all (isSilent · (code text)) = true := by
        decide
      exact hquiet (quiet_code _ (htable _ htext))
  | evaluation hbefore _ hchain =>
      have htable : ∀ text ∈ ["", "return "], lookedFor.all (isSilent · (code text)) = true := by
        decide
      have hvalues := (hquiet (quiet_code _ (htable _ hbefore))).append (silent_flatten hchain)
      exact hvalues.append (hquiet (quiet_code ";" rfl))
  | @declaration _ _ htype name _ _ hvalue =>
      have hvariable := hquiet (htype.quiet.append (quiet_assign name))
      exact (hvariable.append hvalue).append (hquiet (quiet_code ";" rfl))
  | reading htype _ _ hending =>
      exact hquiet ((htype.quiet.append (quiet_assign _)).append (quiet_member _ hending))
  | nothing => exact hquiet quiet_nil
  | both _ _ hp hq => exact hp.append hq

end Phrases

theorem quiet_holder (holder : String) : Quiet (code ", " ++ word holder ++ code ");") := by
  have hcodes : code ", " = [.token (.symbol ",")]
      ∧ code ");" = [.token (.symbol ")"), .token (.symbol ";")] := by decide
  refine quiet_of_isSilent ?_
  simp [lookedFor, announceCall_eq, publishCall_eq, callbackCall_eq, isSilent, apart, hcodes, word]

/-! ## Parts with calls -/

/-- The calls that start in the part are given that, whatever stands behind it. -/
def Calls (call p : Outline) (given : List (ClassName × String)) : Prop :=
  ∀ rest, givenTo call (p ++ rest) = given.map some ++ givenTo call rest

variable {a b : List (ClassName × String)}

theorem Silent.calls (hp : Silent call p) : Calls call p [] := by
  intro rest
  rw [givenTo, hp]
  rfl

theorem Calls.append (hp : Calls call p a) (hq : Calls call q b) :
    Calls call (p ++ q) (a ++ b) := by
  intro rest
  rw [List.append_assoc, hp, hq, List.map_append, List.append_assoc]

theorem Calls.append_silent (hp : Calls call p a) (hq : Silent call q) : Calls call (p ++ q) a := by
  have hall := hp.append hq.calls
  rwa [List.append_nil] at hall

theorem Silent.append_calls (hp : Silent call p) (hq : Calls call q a) : Calls call (p ++ q) a :=
  hp.calls.append hq

theorem Calls.eq (hp : Calls call p a) : givenTo call p = a.map some := by
  have hnothing := hp []
  rwa [List.append_nil, givenTo.eq_def call [], callsOf, List.map_nil, List.append_nil] at hnothing

theorem calls_flatMap {α : Type} {outline : α → Outline} {given : α → List (ClassName × String)}
    {items : List α} (h : ∀ item ∈ items, Calls call (outline item) (given item)) :
    Calls call (items.flatMap outline) (items.flatMap given) :=
  Java.flatMap_closed₂ (fun _ => rfl) Calls.append h

/-- A call is found where its words stand, and the next one not before they end. -/
theorem callsOf_call (hcall : call ∈ lookedFor) (given : Outline) :
    callsOf call (call ++ given) = given :: callsOf call given := by
  have hinside : ∀ call ∈ lookedFor, call ≠ [] ∧ isSilent call call.tail = true := by decide
  obtain ⟨hne, hmore⟩ := hinside call hcall
  obtain ⟨first, more, rfl⟩ := List.exists_cons_of_ne_nil hne
  rw [List.tail_cons] at hmore
  have hprefix : first :: more <+: first :: (more ++ given) := List.prefix_append (first :: more) _
  have hdrop : (first :: (more ++ given)).drop (first :: more).length = given := by
    rw [← List.cons_append]
    exact List.drop_left
  rw [List.cons_append, callsOf, if_pos hprefix, hdrop, silent_of_isSilent hmore,
    List.singleton_append]

/-- One call, with what it is given. -/
theorem calls_one (hcall : call ∈ lookedFor) (target : ClassName) (name : String)
    (hq : Silent call q) :
    Calls call (call ++ (classOutline target ++ code ", " ++ quoted name ++ q))
      [(target, name)] := by
  have hgiven : Silent call (classOutline target ++ code ", " ++ quoted name ++ q) :=
    (((quiet_class target).append_code ", " rfl).append (quiet_quoted name) _
      hcall).append hq
  intro rest
  have hcodes : code ", " = [.token (.symbol ",")]
      ∧ code ".class" = [.token (.symbol "."), .token (.word "class")] := by decide
  have hread : classAndName? (classOutline target ++ code ", " ++ quoted name ++ q ++ rest)
      = some (target, name) := by
    rw [classOutline, hcodes.1, hcodes.2]
    rfl
  rw [List.append_assoc, givenTo, callsOf_call hcall, List.map_cons, hread, hgiven]
  rfl

theorem calls_announce (taskName outputName serviceType : String) :
    Calls announceCall (announceOutline taskName outputName serviceType)
      [(classOf serviceType, outputName)] := by
  have htail : Quiet (code ", this, " ++ quoted taskName ++ code ");") :=
    ((quiet_code ", this, " rfl).append (quiet_quoted taskName)).append_code ");"
      rfl
  have hcall := calls_one (show announceCall ∈ lookedFor by decide) (classOf serviceType)
    outputName (htail _ (by decide))
  have hparts : announceOutline taskName outputName serviceType
      = announceCall ++ (classOutline (classOf serviceType) ++ code ", " ++ quoted outputName
        ++ (code ", this, " ++ quoted taskName ++ code ");")) := by
    simp only [announceOutline, announceCall, registryName, List.append_assoc]
    rfl
  rwa [hparts]

theorem calls_publish (outputName holder serviceType : String) :
    Calls publishCall (publishOutline outputName holder serviceType)
      [(classOf serviceType, outputName)] := by
  have hcall := calls_one (show publishCall ∈ lookedFor by decide) (classOf serviceType)
    outputName (quiet_holder holder _ (by decide))
  simpa only [publishOutline, publishCall, List.append_assoc] using hcall

/-- What a task puts out, in the order of the metadata. -/
def produced (task : Task) : List (ClassName × String) :=
  task.outputs.flatMap fun output =>
    output.serviceTypes.map fun serviceType => (classOf serviceType, output.name)

/-- Both walks are over the outputs and over the types of each, so the announcements come in the
order of `produced`. -/
theorem calls_announceAll (task : Task) :
    Calls announceCall (task.outputs.flatMap (announceAllOutline task.name)) (produced task) :=
  calls_flatMap fun output _ => by
    rw [List.map_eq_flatMap]
    exact calls_flatMap fun serviceType _ => calls_announce task.name output.name serviceType

/-- The same for the publications, each output behind the statement that declares its local.
That statement is a phrase without the feature. -/
theorem calls_publishFrom (runtime : Runtime ClassName) {outputs : List Output}
    (h : ∀ output ∈ outputs, output.WellNamed) (position : Nat) :
    Calls publishCall (publishFromOutline position outputs)
      (outputs.flatMap fun output =>
        output.serviceTypes.map fun serviceType => (classOf serviceType, output.name)) := by
  induction outputs generalizing position with
  | nil => exact fun _ => rfl
  | cons output rest ih =>
      have hpublish : Calls publishCall
          (output.serviceTypes.flatMap (publishOutline output.name (outputVariable position)))
          (output.serviceTypes.map fun serviceType => (classOf serviceType, output.name)) := by
        rw [List.map_eq_flatMap]
        exact calls_flatMap fun serviceType _ => calls_publish output.name _ serviceType
      have hreading : Phrase runtime [.publication, .factory] .statements _ :=
        phrase_reading (h output (List.mem_cons_self ..)) position
      have hdeclare : Silent publishCall _ := hreading.silent (by decide)
      exact (hdeclare.append_calls hpublish).append
        (ih (fun other hother => h other (List.mem_cons_of_mem _ hother)) (position + 1))

/-! ## Statements -/

/-- Where a statement may end. -/
def endings : List Lexeme := [semicolon, openingBrace, closingBrace]

/-- No statement ends in the part, and no block starts or ends. -/
def Unbroken (p : Outline) : Prop := ∀ lexeme ∈ endings, lexeme ∉ p

/-- Nothing ends in what is one argument wherever it stands. -/
theorem Nests.unbroken {spell : ClassName → String} (h : Enclosed spell p) : Unbroken p := by
  intro lexeme hlexeme hmem
  have hends : ∀ lexeme ∈ endings, ∃ token, lexeme = .token token
      ∧ Lexical.endsStatement token = true := by
    simp only [endings, List.forall_mem_cons, List.not_mem_nil, false_imp_iff, implies_true,
      and_true]
    exact ⟨⟨_, rfl, rfl⟩, ⟨_, rfl, rfl⟩, ⟨_, rfl, rfl⟩⟩
  obtain ⟨token, rfl, hend⟩ := hends lexeme hlexeme
  have htoken : token ∈ p.tokens spell :=
    List.mem_flatMap.mpr ⟨_, hmem, List.mem_singleton_self token⟩
  rw [Lexical.endsStatement_of_nest h.isArgument token htoken] at hend
  cases hend

/-- A member of the action, read or called, is one argument. -/
theorem enclosed_accessor {spell : ClassName → String} (accessor : Accessor) :
    Enclosed spell ((accessorTokens accessor).map .token) := by
  have hmember : ∀ name, Enclosed spell (code "action." ++ word name) := fun name =>
    (nests_code "action." rfl).append (enclosed_word name)
  cases accessor with
  | field name => simpa [accessorTokens, code, word] using hmember name
  | method name =>
      simpa [accessorTokens, code, word] using (hmember name).append_code "()" rfl

/-- The part stands in a block, and it is read as the statements, whatever stands behind it. -/
structure Does (p : Outline) (steps : List Step) : Prop where
  inside : ∀ rest, insideBlock 0 (p ++ rest) = p ++ insideBlock 0 rest
  steps : ∀ rest, stepsOf (p ++ rest) = steps ++ stepsOf rest

variable {s t : List Step}

theorem does_nil : Does [] [] := ⟨fun _ => rfl, fun _ => rfl⟩

/-- Statements behind statements, in one block. -/
theorem Does.append (hp : Does p s) (hq : Does q t) : Does (p ++ q) (s ++ t) where
  inside rest := by rw [List.append_assoc, hp.inside, hq.inside, List.append_assoc]
  steps rest := by rw [List.append_assoc, hp.steps, hq.steps, List.append_assoc]

theorem does_flatMap {α : Type} {outline : α → Outline} {steps : α → List Step} {items : List α}
    (h : ∀ item ∈ items, Does (outline item) (steps item)) :
    Does (items.flatMap outline) (items.flatMap steps) :=
  Java.flatMap_closed₂ does_nil Does.append h

/-- A part without braces is inside the block as a whole. -/
theorem insideBlock_unbroken (hp : Unbroken p) (rest : Outline) :
    insideBlock 0 (p ++ rest) = p ++ insideBlock 0 rest := by
  induction p with
  | nil => rfl
  | cons lexeme more ih =>
      have hmore : Unbroken more := fun other hother hmem =>
        hp other hother (List.mem_cons_of_mem _ hmem)
      have hopening : lexeme ≠ openingBrace := by
        rintro rfl
        exact hp _ (by simp [endings]) (List.mem_cons_self ..)
      have hclosing : lexeme ≠ closingBrace := by
        rintro rfl
        exact hp _ (by simp [endings]) (List.mem_cons_self ..)
      rw [List.cons_append, insideBlock, if_neg hopening, if_neg hclosing, ih hmore,
        List.cons_append]

/-- A phrase and a semicolon are one statement, since the phrase has no semicolon in it. -/
theorem does_statement {spell : ClassName → String} (hp : Enclosed spell p) (hne : p ≠ []) :
    Does (p ++ code ";") [Step.read p] where
  inside rest := by
    have hend : code ";" = [semicolon] := by decide
    have hnone : ∀ more, insideBlock 0 (semicolon :: more) = semicolon :: insideBlock 0 more :=
      fun _ => rfl
    rw [hend, List.append_assoc, insideBlock_unbroken hp.unbroken, List.singleton_append, hnone,
      List.append_assoc, List.singleton_append]
  steps rest := by
    have hend : code ";" = [semicolon] := by decide
    have hfirst : (p ++ semicolon :: rest).splitOn semicolon = p :: rest.splitOn semicolon :=
      List.splitOn_append_cons_self_of_not_mem (hp.unbroken semicolon (by simp [endings])) rest
    rw [hend, List.append_assoc, List.singleton_append, stepsOf, hfirst, List.filter_cons_of_pos
      (by simpa using hne), List.map_cons]
    rfl

/-! ## The statements of the callback -/

/-- A type that is there is written as one lexeme. -/
theorem exists_typeOutline {name : String} (h : NamesType name) :
    ∃ lexeme, typeOutline name = [lexeme] := by
  obtain ⟨variableType, htype⟩ := h
  rw [typeOutline, mapError_eq_ok.mp htype]
  cases variableType with
  | primitive keyword => exact ⟨_, rfl⟩
  | reference target => exact ⟨_, rfl⟩

/-- The callback makes its action and executes it; the parameters are arguments, so the
declaration does not end in them. -/
theorem does_execute {spell : ClassName → String} (action : ClassName) {parameters : List Outline}
    (h : ∀ item ∈ parameters, Enclosed spell item) :
    Does (executeOutline action parameters)
      [.declare (named action) "action"
          (code "new " ++ named action ++ code "(" ++ listed parameters ++ code ")"),
        .other (code "action.execute(task)")] := by
  have hnew : Enclosed spell (named action ++ code " action = new " ++ named action ++ code "("
      ++ listed parameters ++ code ")") :=
    (((((enclosed_named action).append_code " action = new " rfl).append
      (enclosed_named action)).append_code "(" rfl).trans (nests_listed h)).append_code ")" rfl
  have hcreate := does_statement hnew (by simp [named])
  have hcall : Enclosed spell (code "action.execute(task)") := nests_code _ rfl
  have hexecute := does_statement hcall (by decide)
  have hread : Step.read (code "action.execute(task)") = .other (code "action.execute(task)") := by
    decide
  have hcodes : code ");" = code ")" ++ code ";"
      ∧ code "action.execute(task);" = code "action.execute(task)" ++ code ";"
      ∧ code " action = new " = .token (.word "action") :: .token (.symbol "=") :: code "new " := by
    decide
  have hall := hcreate.append hexecute
  rw [hread] at hall
  simp only [executeOutline, hcodes, named, List.append_assoc, List.cons_append,
    List.nil_append] at hall ⊢
  exact hall

/-- The statements that an output is read and published with. -/
def outputSteps (output : Output) (position : Nat) : List Step :=
  .declare (typeOutline output.returnType) (outputVariable position)
      ((accessorTokens output.accessor).map .token)
    :: output.serviceTypes.map fun serviceType =>
      .publish (classOf serviceType) output.name (outputVariable position)

/-- The words of the call are no declaration of a local, so the statement is read as a
publication. -/
theorem read_publishCall (given : Outline) :
    Step.read (publishCall ++ given)
      = (Step.ofGiven? given).getD (.other (publishCall ++ given)) := by
  have hprefix : publishCall <+: publishCall ++ given := List.prefix_append publishCall given
  have hdrop : (publishCall ++ given).drop publishCall.length = given := List.drop_left
  unfold Step.read
  split
  -- Its second lexeme is a dot, and that of a declaration is a name.
  · next heq => simp [publishCall_eq] at heq
  · rw [if_pos hprefix, hdrop]

/-- The three arguments stand in one pair of brackets and each of them stands on its own. -/
theorem does_publish (outputName holder serviceType : String) :
    Does (publishOutline outputName holder serviceType)
      [.publish (classOf serviceType) outputName holder] := by
  have hcall : Enclosed ClassName.canonical (publishCall
      ++ (classOutline (classOf serviceType) ++ code ", " ++ quoted outputName
        ++ (code ", " ++ word holder ++ code ")"))) := by
    have hopen : Nests ClassName.canonical 0 1 publishCall := nests_code _ rfl
    have hclass : Nests ClassName.canonical 1 1 (classOutline (classOf serviceType)) :=
      fun base => enclosed_class _ (base + 1)
    have hcomma : Nests ClassName.canonical 1 1 (code ", ") := nests_code ", " rfl
    exact hopen.trans (((hclass.trans hcomma).append (enclosed_quoted outputName)).trans
      ((hcomma.append (enclosed_word holder)).append_code ")" rfl))
  have hcodes : code ", " = [.token (.symbol ",")] ∧ code ")" = [.token (.symbol ")")]
      ∧ code ".class" = [.token (.symbol "."), .token (.word "class")]
      ∧ code ");" = code ")" ++ code ";" := by decide
  have hread : Step.read (publishCall ++ (classOutline (classOf serviceType) ++ code ", "
        ++ quoted outputName ++ (code ", " ++ word holder ++ code ")")))
      = .publish (classOf serviceType) outputName holder := by
    rw [read_publishCall, classOutline, hcodes.1, hcodes.2.1, hcodes.2.2.1]
    rfl
  have hstatement := does_statement hcall (by simp [publishCall_eq])
  rw [hread] at hstatement
  rw [publishOutline, hcodes.2.2.2]
  simpa only [publishCall, List.append_assoc] using hstatement

/-- The type is one lexeme, so the declaration is recognised by the name and the equals sign
behind it. -/
theorem does_publishAll {output : Output} (h : output.WellNamed) (position : Nat) :
    Does (publishAllOutline output position) (outputSteps output position) := by
  obtain ⟨lexeme, htype⟩ := exists_typeOutline h.returnType
  have hdeclaration : Enclosed ClassName.canonical (typeOutline output.returnType ++ (code " "
      ++ word (outputVariable position) ++ code " = "
      ++ (accessorTokens output.accessor).map .token)) :=
    (typePhrase_typeOutline h.returnType).enclosed.append ((((nests_code " " rfl).append
      (enclosed_word _)).append_code " = " rfl).append (enclosed_accessor _))
  have hread : Step.read (typeOutline output.returnType ++ (code " "
        ++ word (outputVariable position) ++ code " = "
        ++ (accessorTokens output.accessor).map .token))
      = .declare (typeOutline output.returnType) (outputVariable position)
          ((accessorTokens output.accessor).map .token) := by
    have hcodes : code " " = [] ∧ code " = " = [.token (.symbol "=")] := by decide
    rw [htype, hcodes.1, hcodes.2]
    rfl
  have hdeclare := does_statement hdeclaration (by simp [htype])
  rw [hread] at hdeclare
  have hpublish : Does
      (output.serviceTypes.flatMap (publishOutline output.name (outputVariable position)))
      (output.serviceTypes.map fun serviceType =>
        .publish (classOf serviceType) output.name (outputVariable position)) := by
    rw [List.map_eq_flatMap]
    exact does_flatMap fun serviceType _ => does_publish output.name _ serviceType
  have hall := hdeclare.append hpublish
  simpa only [publishAllOutline, outputSteps, List.append_assoc, List.singleton_append] using hall

/-- Output by output, with the positions as `zipIdx` counts them. -/
theorem does_publishFrom {outputs : List Output} (h : ∀ output ∈ outputs, output.WellNamed)
    (position : Nat) :
    Does (publishFromOutline position outputs)
      ((outputs.zipIdx position).flatMap fun (output, position) =>
        outputSteps output position) := by
  induction outputs generalizing position with
  | nil => exact does_nil
  | cons output rest ih =>
      rw [List.zipIdx_cons, List.flatMap_cons]
      exact (does_publishAll (h output (List.mem_cons_self ..)) position).append
        (ih (fun other hother => h other (List.mem_cons_of_mem _ hother)) (position + 1))

/-- All that the callback of a task does. -/
def actionSteps (task : Task) : List Step :=
  [.declare (named (classOf task.className)) "action"
      (code "new " ++ named (classOf task.className) ++ code "("
        ++ listed (task.parameters.map (accessOutline .taskServices)) ++ code ")"),
    .other (code "action.execute(task)")]
    ++ task.outputs.zipIdx.flatMap (fun (output, position) => outputSteps output position)
    ++ [.other (code "return null")]

theorem does_action (runtime : Runtime ClassName) {task : Task}
    (h : ∀ output ∈ task.outputs, output.WellNamed) :
    Does (actionOutline task) (actionSteps task) := by
  have hparameters : ∀ item ∈ task.parameters.map (accessOutline .taskServices),
      Enclosed ClassName.canonical item := by
    intro item hitem
    have hphrase : Phrase runtime [.array, .callback] .value item :=
      phrase_accesses (by decide) .taskServices task.parameters item hitem
    exact hphrase.enclosed (by decide)
  have hexecute := does_execute (classOf task.className) hparameters
  have hreturn : Does (code "return null;") [.other (code "return null")] := by
    have hresult : Enclosed ClassName.canonical (code "return null") := nests_code _ rfl
    have hstatement := does_statement hresult (by decide)
    have hcodes : code "return null" ++ code ";" = code "return null;"
        ∧ Step.read (code "return null") = .other (code "return null") := by decide
    rwa [hcodes.1, hcodes.2] at hstatement
  exact (hexecute.append (does_publishFrom h 0)).append hreturn

theorem declared_outputSteps (output : Output) (position : Nat) :
    (outputSteps output position).filterMap Step.declared? = [outputVariable position] := by
  have hnone : (output.serviceTypes.map fun serviceType =>
        Step.publish (classOf serviceType) output.name (outputVariable position)).filterMap
          Step.declared? = [] := by
    rw [List.filterMap_map, List.filterMap_eq_nil_iff]
    exact fun _ _ => rfl
  exact congrArg (outputVariable position :: ·) hnone

theorem outputVariable_injective : Function.Injective outputVariable := by
  intro m n h
  exact Text.repr_injective ((String.append_right_inj "var").mp h)

/-- The locals of the callback in order: the action and one for each output. -/
theorem declared_actionSteps (task : Task) :
    (actionSteps task).filterMap Step.declared?
      = "action" :: (List.range task.outputs.length).map outputVariable := by
  have houtputs : (task.outputs.zipIdx.flatMap fun (output, position) =>
        outputSteps output position).filterMap Step.declared?
      = (task.outputs.zipIdx.map Prod.snd).map outputVariable := by
    rw [List.filterMap_flatMap, List.map_map, List.map_eq_flatMap]
    exact List.flatMap_congr fun _ _ => declared_outputSteps ..
  rw [actionSteps, List.filterMap_append, List.filterMap_append, houtputs, List.zipIdx_map_snd,
    ← List.range_eq_range']
  exact congrArg ("action" :: ·) (List.append_nil _)

/-- The locals of the callback are all different, and none is a parameter around it. -/
theorem nodup_declared (task : Task) :
    ("builder" :: "task" :: (actionSteps task).filterMap Step.declared?).Nodup := by
  have houtputs : ((List.range task.outputs.length).map outputVariable).Nodup :=
    List.nodup_range.map outputVariable_injective
  have hother : ∀ name ∈ ["builder", "task", "action"],
      name ∉ (List.range task.outputs.length).map outputVariable := by
    intro name hname hmem
    obtain ⟨position, -, rfl⟩ := List.mem_map.mp hmem
    have hbeginnings : ∀ name ∈ ["builder", "task", "action"],
        name.toList.take 3 ≠ "var".toList := by decide
    exact outputVariable_ne (hbeginnings _ hname) position rfl
  rw [declared_actionSteps]
  simp only [List.nodup_cons, List.mem_cons, not_or]
  exact ⟨⟨by decide, by decide, hother _ (by simp)⟩, ⟨by decide, hother _ (by simp)⟩,
    hother _ (by simp), houtputs⟩

/-- To read an output, its member was checked. -/
theorem isIdentifier_of_readOutput {accessor : Accessor} {value : String}
    (h : readOutput accessor = .ok value) : Java.isIdentifier accessor.member = true := by
  cases accessor with
  | field name => exact checkMemberName_eq_ok.mp (Outcome.check_eq_ok.mp h).1
  | method name => exact checkMemberName_eq_ok.mp (Outcome.check_eq_ok.mp h).1

/-- The emitter reads all the names of an output, so its success says that they are good. -/
theorem wellNamed_of_publishOutputs {output : Output} {position : Nat} {f : Fragment}
    (h : publishOutputs output position = .ok f) : output.WellNamed := by
  obtain ⟨value, hvalue, h⟩ := bind_eq_ok.mp h
  obtain ⟨variableType, htype, h⟩ := bind_eq_ok.mp h
  obtain ⟨statements, hstatements, -⟩ := bind_eq_ok.mp h
  refine ⟨⟨variableType, htype⟩, fun serviceType hmem => ?_, isIdentifier_of_readOutput hvalue⟩
  obtain ⟨statement, hstatement⟩ := Outcome.exists_of_mapM hstatements serviceType hmem
  obtain ⟨target, htarget, -⟩ := bind_eq_ok.mp hstatement
  exact ⟨target, htarget⟩

/-- What is published is named as it should be, for names are read on the way. -/
theorem wellNamed_of_publishFrom {outputs : List Output} {position : Nat} {f : Fragment}
    (h : publishFrom position outputs = .ok f) : ∀ output ∈ outputs, output.WellNamed := by
  induction outputs generalizing position f with
  | nil => exact fun _ hmem => absurd hmem List.not_mem_nil
  | cons first rest ih =>
      obtain ⟨statements, hfirst, h⟩ := bind_eq_ok.mp h
      obtain ⟨more, hmore, -⟩ := bind_eq_ok.mp h
      exact List.forall_mem_cons.mpr ⟨wellNamed_of_publishOutputs hfirst, ih hmore⟩

/-! ## Announced and published -/

section

variable (runtime : Runtime ClassName)

/-- What stands in front of the callback of a task, without its announcements. -/
theorem silent_registration {feature : Feature} (hcall : (call, feature) ∈ markedCalls)
    (task : Task) :
    Silent call (code (tasksName ++ ".register(") ++ quoted task.name ++ code ", (builder) -> \x7b"
      ++ (code "builder.threadMode(" ++ constantOutline runtime.threadMode task.threadMode
        ++ code ")")
      ++ (code ".priority(" ++ number task.priority.toInt ++ code ")")
      ++ dependsOnOutline (task.allDependencies.map (descriptorOutline runtime)) ++ code ".") := by
  have hquiet : ∀ {q}, Quiet q → Silent call q := fun hq => hq call (mem_lookedFor_of_marked hcall)
  have hplain : Feature.plain ∉ [feature, .factory] := by
    have htable : ∀ entry ∈ markedCalls, Feature.plain ∉ [entry.2, .factory] := by decide
    exact htable _ hcall
  have hname := hquiet (((quiet_code (tasksName ++ ".register(") (by decide)).append
    (quiet_quoted task.name)).append_code ", (builder) -> \x7b" rfl)
  have hconstant : Phrase runtime [feature, .factory] .value _ := phrase_threadMode task.threadMode
  have hmode := ((hquiet (quiet_code "builder.threadMode(" rfl)).append
    (hconstant.silent hcall)).append (hquiet (quiet_code ")" rfl))
  have hpriority := hquiet (((quiet_code ".priority(" rfl).append
    (quiet_number task.priority.toInt)).append_code ")" rfl)
  have hdepends : Silent call
      (dependsOnOutline (task.allDependencies.map (descriptorOutline runtime))) := by
    have hdescriptors : ∀ item ∈ task.allDependencies.map (descriptorOutline runtime),
        Phrase runtime [feature, .factory] .value item := phrase_descriptors task.allDependencies
    obtain ⟨chain, hchain, heq⟩ := exists_dependsOn hdescriptors hplain
    rw [← heq]
    exact silent_flatten fun item hitem => (hchain item hitem).silent hcall
  have hdot := hquiet (quiet_code "." rfl)
  exact (((hname.append hmode).append hpriority).append hdepends).append hdot

theorem quiet_end : Quiet (code "\x7d);" ++ code "return null;" ++ code "\x7d);") :=
  ((quiet_code "\x7d);" rfl).append_code "return null;" rfl).append_code "\x7d);"
    rfl

/-- The statements of a task, with the callback in the middle. -/
theorem taskOutline_around_callback (task : Task) :
    taskOutline runtime task = task.outputs.flatMap (announceAllOutline task.name)
      ++ (code (tasksName ++ ".register(") ++ quoted task.name ++ code ", (builder) -> \x7b"
        ++ (code "builder.threadMode(" ++ constantOutline runtime.threadMode task.threadMode
          ++ code ")")
        ++ (code ".priority(" ++ number task.priority.toInt ++ code ")")
        ++ dependsOnOutline (task.allDependencies.map (descriptorOutline runtime)) ++ code ".")
      ++ callbackCall ++ actionOutline task
      ++ (code "\x7d);" ++ code "return null;" ++ code "\x7d);") := by
  have hcode : code ".doLast((task) -> \x7b" = code "." ++ callbackCall := by decide
  simp only [taskOutline, hcode, List.append_assoc]

/-- The publications are in the callback, between two parts without any. -/
theorem calls_action (runtime : Runtime ClassName) {task : Task}
    (h : ∀ output ∈ task.outputs, output.WellNamed) :
    Calls publishCall (actionOutline task) (produced task) := by
  have hexecute : Phrase runtime [.publication, .factory] .statements _ := phrase_execute
    (classOf task.className) (phrase_accesses (by decide) .taskServices task.parameters)
  have hcreate : Silent publishCall _ := hexecute.silent (by decide)
  have hreturn : Silent publishCall (code "return null;") := silent_of_isSilent (by decide)
  exact (hcreate.append_calls (calls_publishFrom runtime h 0)).append_silent hreturn

/-- The announcements come first; neither the task nor its callback announces anything. -/
theorem calls_announce_task {task : Task} (h : ∀ output ∈ task.outputs, output.WellNamed) :
    Calls announceCall (taskOutline runtime task) (produced task) := by
  have hmarked : (announceCall, Feature.registration) ∈ markedCalls := by decide
  have hfront := (calls_announceAll task).append_silent (silent_registration runtime hmarked task)
  have hcallback : Silent announceCall callbackCall := silent_of_isSilent (by decide)
  have hphrase : Phrase runtime [.registration, .factory] .statements (actionOutline task) :=
    phrase_action (by decide) (by decide) h
  rw [taskOutline_around_callback]
  exact ((hfront.append_silent hcallback).append_silent (hphrase.silent hmarked)).append_silent
    (quiet_end announceCall (by decide))

/-- In front of the callback nothing is published. -/
theorem calls_publish_task {task : Task} (h : ∀ output ∈ task.outputs, output.WellNamed) :
    Calls publishCall (taskOutline runtime task) (produced task) := by
  have hannounce : Phrase runtime [.publication, .factory] .statements _ :=
    phrase_announceAll (by decide) task
  have hcallback : Silent publishCall callbackCall := silent_of_isSilent (by decide)
  have hmarked : (publishCall, Feature.publication) ∈ markedCalls := by decide
  have hfront := ((hannounce.silent hmarked).append
    (silent_registration runtime hmarked task)).append hcallback
  rw [taskOutline_around_callback]
  exact (hfront.append_calls (calls_action runtime h)).append_silent
    (quiet_end publishCall (by decide))

/-- The first callback is that of the task: nothing before it has one, and its body ends with
the brace that closes it. -/
theorem callback?_task {task : Task} {steps : List Step} (h : Does (actionOutline task) steps) :
    callback? (taskOutline runtime task) = some (actionOutline task) := by
  have hannounce : Phrase runtime [.callback, .factory] .statements _ :=
    phrase_announceAll (by decide) task
  have hmarked : (callbackCall, Feature.callback) ∈ markedCalls := by decide
  have hfront := (hannounce.silent hmarked).append (silent_registration runtime hmarked task)
  have hclose : ∀ rest, insideBlock 0 (code "\x7d);" ++ rest) = [] := by
    have hcode : code "\x7d);" = closingBrace :: code ");" := by decide
    intro rest
    rw [hcode]
    rfl
  rw [callback?, taskOutline_around_callback, List.append_assoc, List.append_assoc, hfront,
    callsOf_call (by decide), List.head?_cons, Option.map_some, h.inside, List.append_assoc, hclose,
    List.append_nil]

end

/-- The classes that the statements of a task are given when its outputs are announced and
when they are published are those that the metadata lists, each with the name of its
output. -/
theorem outputs_published {names : Runtime String} {runtime : Runtime ClassName}
    (hresolve : names.resolve = .ok runtime) {task : Task} {f : Fragment}
    (h : taskStatements runtime task = .ok f) :
    ∃ outline body, (∀ other, f.Reads .sealed other ↔ other = outline)
      ∧ callback? outline = some body
      ∧ givenTo announceCall outline = (produced task).map some
      ∧ givenTo publishCall outline = (produced task).map some
      ∧ givenTo publishCall body = (produced task).map some
      ∧ stepsOf body = actionSteps task
      ∧ ("builder" :: "task" :: (stepsOf body).filterMap Step.declared?).Nodup := by
  have hreads := reads_taskStatements (Runtime.wellFormed_of_resolve hresolve) h
  obtain ⟨action, -, hrest⟩ := bind_eq_ok.mp h
  obtain ⟨announcements, -, hrest⟩ := bind_eq_ok.mp hrest
  obtain ⟨descriptors, -, hrest⟩ := bind_eq_ok.mp hrest
  obtain ⟨parameters, -, hrest⟩ := bind_eq_ok.mp hrest
  obtain ⟨publications, hpublications, -⟩ := bind_eq_ok.mp hrest
  have hnamed := wellNamed_of_publishFrom hpublications
  have hdoes := does_action runtime hnamed
  have hsteps : stepsOf (actionOutline task) = actionSteps task := by
    have hall := hdoes.steps []
    rwa [List.append_nil, show stepsOf [] = [] from rfl, List.append_nil] at hall
  refine ⟨taskOutline runtime task, actionOutline task, fun other => ?_,
    callback?_task runtime hdoes, (calls_announce_task runtime hnamed).eq,
    (calls_publish_task runtime hnamed).eq, (calls_action runtime hnamed).eq, hsteps,
    hsteps ▸ nodup_declared task⟩
  exact ⟨fun hother => hother.unique hreads, fun heq => heq ▸ hreads⟩

/-- A task that puts out one value as two classes, and another value. -/
def archiveTask : Task :=
  { name := "archive", className := "com.example.Archiver",
    outputs := [⟨"jar", "com.example.Jar", .field "jar", ["com.example.Jar", "java.io.File"]⟩,
      ⟨"size", "long", .method "size", ["java.lang.Long"]⟩] }

/-- The theorem at that task, whose statements are emitted because its names are good. -/
theorem archive_published :
    ∃ runtime f, Runtime.standard.resolve = .ok runtime
      ∧ taskStatements runtime archiveTask = .ok f
      ∧ produced archiveTask = [(classOf "com.example.Jar", "jar"), (classOf "java.io.File", "jar"),
          (classOf "java.lang.Long", "size")]
      ∧ ∃ outline body, (∀ other, f.Reads .sealed other ↔ other = outline)
        ∧ callback? outline = some body
        ∧ givenTo announceCall outline = (produced archiveTask).map some
        ∧ givenTo publishCall outline = (produced archiveTask).map some
        ∧ givenTo publishCall body = (produced archiveTask).map some
        ∧ stepsOf body = actionSteps archiveTask
        ∧ ("builder" :: "task" :: (stepsOf body).filterMap Step.declared?).Nodup := by
  obtain ⟨runtime, hruntime⟩ := Runtime.standard_resolves
  have hwell : archiveTask.WellNamed := by
    refine ⟨Outcome.exists_of_isOk (by decide +kernel), fun _ hmem => absurd hmem List.not_mem_nil,
      fun output hmem => ⟨?_, fun name hname => ?_, ?_⟩⟩
    · exact Outcome.exists_of_isOk (by decide +revert +kernel)
    · exact Outcome.exists_of_isOk (by decide +revert +kernel)
    · decide +revert +kernel
  obtain ⟨f, hf⟩ := taskStatements_succeeds runtime hwell
  exact ⟨runtime, f, hruntime, hf, rfl, outputs_published hruntime hf⟩

end ModuleContainers.Container
