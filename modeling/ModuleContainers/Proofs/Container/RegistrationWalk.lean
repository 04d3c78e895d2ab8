import ModuleContainers.Proofs.Container.Registration
import ModuleContainers.Proofs.Lexical.Statements

/-!
# Looking for registrations

A statement registers something if it begins with one of four calls
(`registrations`). Whether a part of the source has such statements is found out
by walking through its tokens from one state to another, where the state is the
depth of braces and whether a statement starts there (`Walk`).

Names do not get in the way: a path is never the beginning of a registration,
because where a path can start a statement it is not followed by a parenthesis
(`walk_path`), and what is in quotes is one token. Most parts of the source
register nothing wherever they stand (`Inert`).
-/

namespace ModuleContainers.Container

open ModuleContainers.Java (ClassName Outline code codeTokens listed named number quoted word)
open ModuleContainers.Lexical (Token depthAfter depthAfter_append depthStep depthStep_add
  endsStatement methodBody pathTokens statementsFrom)

/-! ## Registrations -/

/-- The calls that register something. -/
def registrationCalls : List (String × String) :=
  [("registry", "registerProviderService"), ("registry", "registerRoutes"),
    ("registry", "registerTaskOutputService"), ("tasks", "register")]

def callTokens (call : String × String) : List Token :=
  [.word call.1, .symbol ".", .word call.2, .symbol "("]

def isRegistration (statement : List Token) : Bool :=
  registrationCalls.any fun call => (callTokens call).isPrefixOf statement

/-- The statements that register something in the tokens of a class, each with all
that follows it. -/
def registrations (tokens : List Token) : List (List Token) :=
  (statementsFrom true ((methodBody "onRegister" tokens).getD [])).filter isRegistration

/-! ## Walking through tokens -/

/-- The tokens lead from one state to another, and the statements met that register
something begin with the openings. -/
structure Walk (starts : Bool) (depth : Nat) (tokens : List Token) (starts' : Bool) (depth' : Nat)
    (openings : List (List Token)) : Prop where
  depth : depthAfter depth tokens = some depth'
  found : ∀ rest, ∃ found, List.Forall₂ (· <+: ·) openings found
    ∧ (statementsFrom starts (tokens ++ rest)).filter isRegistration
      = found ++ (statementsFrom starts' rest).filter isRegistration

variable {starts starts' starts'' : Bool} {depth depth' depth'' : Nat} {a b tokens : List Token}
  {x y : List (List Token)}

theorem walk_nil : Walk starts depth [] starts depth [] :=
  ⟨rfl, fun _ => ⟨[], .nil, rfl⟩⟩

theorem Walk.append (ha : Walk starts depth a starts' depth' x)
    (hb : Walk starts' depth' b starts'' depth'' y) :
    Walk starts depth (a ++ b) starts'' depth'' (x ++ y) := by
  refine ⟨by rw [depthAfter_append, ha.depth]; exact hb.depth, fun rest => ?_⟩
  obtain ⟨first, hfirst, hfirstEq⟩ := ha.found (b ++ rest)
  obtain ⟨second, hsecond, hsecondEq⟩ := hb.found rest
  refine ⟨first ++ second, List.rel_append hfirst hsecond, ?_⟩
  rw [List.append_assoc, hfirstEq, hsecondEq, List.append_assoc]

theorem isRegistration_shape {statement : List Token} (h : isRegistration statement = true) :
    ∃ call ∈ registrationCalls, ∃ rest, statement = callTokens call ++ rest := by
  obtain ⟨call, hcall, hprefix⟩ := List.any_eq_true.mp h
  obtain ⟨rest, hrest⟩ := List.isPrefixOf_iff_prefix.mp hprefix
  exact ⟨call, hcall, rest, hrest.symm⟩

theorem filter_step (starts : Bool) (token : Token) (rest : List Token)
    (h : starts = true → isRegistration (token :: rest) = false) :
    (statementsFrom starts (token :: rest)).filter isRegistration
      = (statementsFrom (endsStatement token) rest).filter isRegistration := by
  cases starts with
  | false => rfl
  | true => simp [statementsFrom, h rfl]

/-- A walk over code that starts no statement with one of the two names. -/
def scan : Bool → Nat → List Token → Option (Bool × Nat)
  | starts, depth, [] => some (starts, depth)
  | starts, depth, token :: rest =>
      if starts ∧ token ∈ [.word "registry", .word "tasks"] then none
      else (depthStep depth token).bind fun depth => scan (endsStatement token) depth rest

theorem not_isRegistration {token : Token} (rest : List Token)
    (h : token ∉ [.word "registry", .word "tasks"]) : isRegistration (token :: rest) = false := by
  by_contra hregistration
  obtain ⟨call, hcall, more, heq⟩ := isRegistration_shape (Bool.of_not_eq_false hregistration)
  have htable : ∀ call ∈ registrationCalls,
      Token.word call.1 ∈ [.word "registry", .word "tasks"] := by decide
  obtain ⟨rfl, -⟩ := List.cons.inj heq
  exact h (htable call hcall)

theorem walk_of_scan (h : scan starts depth tokens = some (starts', depth')) (base : Nat) :
    Walk starts (base + depth) tokens starts' (base + depth') [] := by
  induction tokens generalizing starts depth with
  | nil =>
      obtain ⟨rfl, rfl⟩ := Prod.mk.inj (Option.some.inj h)
      exact walk_nil
  | cons token rest ih =>
      rw [scan] at h
      split at h
      · cases h
      · next hquiet =>
          obtain ⟨middle, hstep, hrest⟩ := Option.bind_eq_some_iff.mp h
          have hwalk := ih hrest
          refine ⟨?_, fun more => ⟨[], .nil, ?_⟩⟩
          · rw [depthAfter, depthStep_add hstep base]
            exact hwalk.depth
          · obtain ⟨found, hfound, heq⟩ := hwalk.found more
            cases hfound
            rw [List.cons_append, filter_step _ _ _ fun hstarts =>
              not_isRegistration _ fun hname => hquiet ⟨hstarts, hname⟩, heq]

theorem walk_literal (starts : Bool) (depth : Nat) (value : String) :
    Walk starts depth [.literal value] false depth [] := by
  have hscan : scan starts 0 [.literal value] = some (false, 0) := by cases starts <;> rfl
  exact walk_of_scan hscan depth

/-! ## Paths -/

/-- What can stand behind a path so that the two are no registration. -/
def followsPath : List Token → Bool
  | .symbol "." :: .word member :: _ => !(registrationCalls.map Prod.snd).contains member
  | .symbol text :: _ => text != "." && text != "("
  | .word _ :: _ => true
  | _ => false

theorem scan_path (depth : Nat) (text : String) :
    scan false depth (pathTokens text) = some (false, depth) := by
  have hparts : ∀ parts : List String,
      scan false depth ((parts.map Token.word).intersperse (.symbol "."))
        = some (false, depth) := by
    intro parts
    induction parts with
    | nil => rfl
    | cons part rest ih =>
        cases rest with
        | nil => rfl
        | cons next more => exact ih
  exact hparts _

theorem walk_path_inside (depth : Nat) (text : String) :
    Walk false depth (pathTokens text) false depth [] := by
  have hwalk := walk_of_scan (scan_path 0 text) depth
  exact hwalk

/-- A path and what stands behind it are no registration. -/
theorem not_isRegistration_path (text : String) {tail : List Token}
    (h : followsPath tail = true) (rest : List Token) :
    isRegistration (pathTokens text ++ tail ++ rest) = false := by
  by_contra hregistration
  obtain ⟨call, hcall, more, heq⟩ := isRegistration_shape (Bool.of_not_eq_false hregistration)
  rw [pathTokens, callTokens, List.append_assoc] at heq
  cases hparts : Text.splitOn '.' text with
  | nil =>
      rw [Text.splitOn, List.map_eq_nil_iff] at hparts
      exact List.splitOn_ne_nil _ _ hparts
  | cons first others =>
      rw [hparts] at heq
      rcases others with _ | ⟨second, _ | ⟨third, others⟩⟩
      · -- One name: the tail would have to go on with a method that registers.
        rcases tail with _ | ⟨dot, _ | ⟨member, tail⟩⟩
        · cases h
        · obtain rfl : dot = .symbol "." := by simp at heq; exact heq.2.1
          simp [followsPath] at h
        · obtain ⟨rfl, rfl⟩ : dot = .symbol "." ∧ member = .word call.2 := by
            simp at heq
            exact ⟨heq.2.1, heq.2.2.1⟩
          have hmember : call.2 ∈ registrationCalls.map Prod.snd := List.mem_map_of_mem hcall
          simp [followsPath, hmember] at h
      · -- Two names: the tail would have to start with a parenthesis.
        rcases tail with _ | ⟨paren, tail⟩
        · cases h
        · obtain rfl : paren = .symbol "(" := by simp at heq; exact heq.2.2.1
          simp [followsPath] at h
      · -- More names have a third dot.
        simp at heq

theorem walk_path {tail : List Token} (hfollows : followsPath tail = true)
    (htail : Walk false depth tail starts' depth' []) (starts : Bool) (text : String) :
    Walk starts depth (pathTokens text ++ tail) starts' depth' [] := by
  have hinside := (walk_path_inside depth text).append htail
  refine ⟨hinside.depth, fun rest => ⟨[], .nil, ?_⟩⟩
  obtain ⟨found, hfound, heq⟩ := hinside.found rest
  cases hfound
  cases htokens : pathTokens text ++ tail with
  | nil =>
      obtain ⟨-, rfl⟩ := List.append_eq_nil_iff.mp htokens
      cases hfollows
  | cons token more =>
      have hquiet := not_isRegistration_path text hfollows rest
      rw [htokens, List.cons_append] at heq hquiet
      rw [← heq, List.cons_append, filter_step starts _ _ fun _ => hquiet]
      exact (filter_step false _ _ fun hstarts => absurd hstarts (by decide)).symm

/-! ## A statement that registers -/

theorem isRegistration_append {statement : List Token} (h : isRegistration statement = true)
    (rest : List Token) : isRegistration (statement ++ rest) = true := by
  obtain ⟨call, hcall, more, rfl⟩ := isRegistration_shape h
  refine List.any_eq_true.mpr ⟨call, hcall, List.isPrefixOf_iff_prefix.mpr ?_⟩
  exact ⟨more ++ rest, (List.append_assoc ..).symm⟩

/-- Where nothing more is registered inside of a statement that registers, it is
the only one that is met. -/
theorem Walk.register (h : Walk false depth tokens starts' depth' [])
    (hregistration : isRegistration tokens = true) {opening : List Token}
    (hopening : opening <+: tokens) : Walk true depth tokens starts' depth' [opening] := by
  cases tokens with
  | nil => cases hregistration
  | cons token more =>
      refine ⟨h.depth, fun rest => ?_⟩
      obtain ⟨found, hfound, heq⟩ := h.found rest
      cases hfound
      have hwhole := isRegistration_append hregistration rest
      have hprefix := hopening.trans (List.prefix_append (token :: more) rest)
      refine ⟨[token :: more ++ rest], .cons hprefix .nil, ?_⟩
      rw [← List.nil_append ((statementsFrom starts' rest).filter _), ← heq]
      simp only [List.cons_append] at hwhole ⊢
      simp only [statementsFrom, if_true, List.singleton_append, List.filter_cons, hwhole]
      rfl

/-! ## Parts that register nothing -/

/-- Wherever it stands, nothing is registered in the outline, and every brace in
it that is opened is closed. -/
def Inert (spell : ClassName → String) (outline : Outline) : Prop :=
  ∀ starts depth, ∃ starts', Walk starts depth (outline.tokens spell) starts' depth []

/-- Wherever it stands, the code leads from one depth to the other and starts no
statement with one of the two names. -/
def leads (depth depth' : Nat) (text : String) : Bool :=
  [true, false].all fun starts => (scan starts depth (codeTokens text)).any (·.2 = depth')

/-- Moreover, the code ends inside of a statement or behind one. -/
def leadsTo (starts' : Bool) (depth depth' : Nat) (text : String) : Bool :=
  [true, false].all fun starts => scan starts depth (codeTokens text) = some (starts', depth')

theorem walk_leads (text : String) (h : leads depth depth' text = true) (starts : Bool)
    (base : Nat) :
    ∃ starts', Walk starts (base + depth) (codeTokens text) starts' (base + depth') [] := by
  have hany := List.all_eq_true.mp h starts (by cases starts <;> decide)
  obtain ⟨⟨starts', found⟩, hscan, hdepth⟩ := (Option.any_eq_true ..).mp hany
  obtain rfl := of_decide_eq_true hdepth
  exact ⟨starts', walk_of_scan hscan base⟩

theorem walk_leadsTo (text : String) (h : leadsTo starts' depth depth' text = true) (starts : Bool)
    (base : Nat) : Walk starts (base + depth) (codeTokens text) starts' (base + depth') [] := by
  have hscan := List.all_eq_true.mp h starts (by cases starts <;> decide)
  exact walk_of_scan (of_decide_eq_true hscan) base

variable {spell : ClassName → String} {p q : Outline}

theorem inert_nil : Inert spell [] := fun starts _ => ⟨starts, walk_nil⟩

theorem Inert.append (hp : Inert spell p) (hq : Inert spell q) : Inert spell (p ++ q) := by
  intro starts depth
  obtain ⟨middle, hfirst⟩ := hp starts depth
  obtain ⟨starts', hsecond⟩ := hq middle depth
  refine ⟨starts', ?_⟩
  rw [Outline.tokens_append]
  exact hfirst.append hsecond

theorem inert_code (text : String) (h : leads 0 0 text = true) :
    Inert spell (code text) := by
  intro starts depth
  rw [Outline.tokens_code]
  exact walk_leads text h starts depth

theorem Inert.append_code (hp : Inert spell p) (text : String) (h : leads 0 0 text = true) :
    Inert spell (p ++ code text) :=
  hp.append (inert_code text h)

theorem inert_quoted (value : String) : Inert spell (quoted value) :=
  fun starts depth => ⟨false, walk_literal starts depth value⟩

theorem inert_number (i : Int) : Inert spell (number i) := by
  intro starts depth
  rw [Outline.tokens_number]
  have hscan : scan starts 0 (Lexical.numberTokens i) = some (false, 0) := by
    cases i <;> cases starts <;> rfl
  exact ⟨false, walk_of_scan hscan depth⟩

theorem inert_word {name : String} (h : name ∉ ["registry", "tasks"]) :
    Inert spell (word name) := by
  intro starts depth
  have hname : Token.word name ∉ [.word "registry", .word "tasks"] := by simpa using h
  have hscan : scan starts 0 [.word name] = some (false, 0) := by
    rw [scan, if_neg fun hboth => hname hboth.2]
    rfl
  exact ⟨false, walk_of_scan hscan depth⟩

/-- What stands behind the class tells that it is no call that registers. -/
theorem inert_named (target : ClassName) (h : followsPath (q.tokens spell) = true)
    (hq : Inert spell q) : Inert spell (named target ++ q) := by
  intro starts depth
  obtain ⟨starts', hwalk⟩ := hq false depth
  refine ⟨starts', ?_⟩
  rw [Outline.tokens_append, Outline.tokens_named]
  exact walk_path h hwalk starts _

theorem inert_named_code (target : ClassName) (text : String)
    (h : (followsPath (codeTokens text) && leads 0 0 text) = true) :
    Inert spell (named target ++ code text) := by
  obtain ⟨hfollows, hleads⟩ := Bool.and_eq_true_iff.mp h
  exact inert_named target (by rwa [Outline.tokens_code]) (inert_code text hleads)

/-- What stands before the class, or before a name, tells that no statement starts
with it. -/
theorem inert_code_named (text : String) (target : ClassName)
    (h : leadsTo false 0 0 text = true) :
    Inert spell (code text ++ named target) := by
  intro starts depth
  refine ⟨false, ?_⟩
  rw [Outline.tokens_append, Outline.tokens_code, Outline.tokens_named]
  exact (walk_leadsTo text h starts depth).append (walk_path_inside depth _)

theorem inert_code_word (text name : String)
    (h : leadsTo false 0 0 text = true) :
    Inert spell (code text ++ word name) := by
  intro starts depth
  refine ⟨false, ?_⟩
  rw [Outline.tokens_append, Outline.tokens_code, Outline.tokens_word]
  have hword : scan false 0 [.word name] = some (false, 0) := rfl
  exact (walk_leadsTo text h starts depth).append (walk_of_scan hword depth)

theorem inert_listed {items : List Outline} (h : ∀ item ∈ items, Inert spell item) :
    Inert spell (listed items) :=
  Java.listed_induction inert_nil (inert_code "," rfl) Inert.append h

theorem inert_flatMap {α : Type} {outline : α → Outline} {items : List α}
    (h : ∀ item ∈ items, Inert spell (outline item)) :
    Inert spell (items.flatMap outline) :=
  Java.flatMap_closed inert_nil Inert.append h

/-- Braces around a part that registers nothing. -/
theorem Inert.braced (hp : Inert spell p) (before after : String)
    (hbefore : leads 0 1 before = true) (hafter : leads 1 0 after = true) :
    Inert spell (code before ++ p ++ code after) := by
  intro starts depth
  obtain ⟨first, hopen⟩ := walk_leads before hbefore starts depth
  obtain ⟨second, hinside⟩ := hp first (depth + 1)
  obtain ⟨third, hclose⟩ := walk_leads after hafter second depth
  refine ⟨third, ?_⟩
  rw [Outline.tokens_append, Outline.tokens_append, Outline.tokens_code, Outline.tokens_code]
  exact (hopen.append hinside).append hclose

/-! ## Statements -/

theorem Inert.closed (hp : Inert spell p) (after : String)
    (hafter : leadsTo true 0 0 after = true) (starts : Bool) (depth : Nat) :
    Walk starts depth ((p ++ code after).tokens spell) true depth [] := by
  obtain ⟨middle, hfirst⟩ := hp starts depth
  rw [Outline.tokens_append, Outline.tokens_code]
  exact hfirst.append (walk_leadsTo after hafter middle depth)

/-- The code is the beginning of a statement that registers, up to its arguments. -/
def opensCall (text : String) : Bool :=
  isRegistration (codeTokens text) && scan false 0 (codeTokens text) = some (false, 0)

/-- A call that registers something, up to where the next statement can start. -/
theorem walk_call (before after : String) (more depth : Nat) {opening : List Token}
    (hp : Inert spell p)
    (hopening : opening <+: (code before ++ p ++ code after).tokens spell)
    (hbefore : opensCall before = true) (hafter : leadsTo true 0 more after = true) :
    Walk true depth ((code before ++ p ++ code after).tokens spell) true (depth + more)
      [opening] := by
  obtain ⟨hregistration, hscan⟩ := Bool.and_eq_true_iff.mp hbefore
  obtain ⟨middle, hinside⟩ := hp false depth
  rw [Outline.tokens_append, Outline.tokens_append, Outline.tokens_code,
    Outline.tokens_code] at hopening ⊢
  have hwalk := ((walk_of_scan (of_decide_eq_true hscan) depth).append hinside).append
    (walk_leadsTo after hafter middle depth)
  exact hwalk.register (isRegistration_append (isRegistration_append hregistration _) _) hopening

end ModuleContainers.Container
