import ModuleContainers.Proofs.Lexical.Reading

/-!
# Methods, statements and arguments in tokens

Without a parser, the body of a method is found by its name and by matching
braces, and a statement starts where a body starts and behind every semicolon and
every brace. A statement is given with all that follows it, so that any number of
its tokens can be looked at. What can be an argument of a call is told by matching
parentheses.
-/

namespace ModuleContainers.Lexical

/-! ## Bodies -/

/-- The depth of braces after a token; nothing behind a brace that closes more
than was opened. -/
def depthStep (depth : Nat) (token : Token) : Option Nat :=
  if token = .symbol "\x7b" then some (depth + 1)
  else if token = .symbol "\x7d" then (if depth = 0 then none else some (depth - 1))
  else some depth

def depthAfter : Nat → List Token → Option Nat
  | depth, [] => some depth
  | depth, token :: rest => (depthStep depth token).bind fun depth => depthAfter depth rest

/-- The tokens up to the brace that closes the block they are in. -/
def block : Nat → List Token → List Token
  | _, [] => []
  | depth, token :: rest =>
      match depthStep depth token with
      | some depth => token :: block depth rest
      | none => []

/-- The body of the first method of the name that gives nothing back. -/
def methodBody (name : String) : List Token → Option (List Token)
  | .word "void" :: .word other :: rest =>
      if other = name then some (block 0 ((rest.dropWhile (· ≠ .symbol "\x7b")).drop 1))
      else methodBody name (.word other :: rest)
  | _ :: rest => methodBody name rest
  | [] => none

theorem depthAfter_append (depth : Nat) (a b : List Token) :
    depthAfter depth (a ++ b) = (depthAfter depth a).bind fun depth => depthAfter depth b := by
  induction a generalizing depth with
  | nil => rfl
  | cons token rest ih =>
      simp only [List.cons_append, depthAfter]
      cases depthStep depth token with
      | none => rfl
      | some next => exact ih next

theorem depthStep_add {depth next : Nat} {token : Token} (h : depthStep depth token = some next)
    (base : Nat) : depthStep (base + depth) token = some (base + next) := by
  by_cases hopen : token = .symbol "\x7b"
  · simp only [depthStep, if_pos hopen, Option.some.injEq] at h ⊢
    omega
  · by_cases hclose : token = .symbol "\x7d"
    · by_cases hzero : depth = 0
      · simp only [depthStep, if_neg hopen, if_pos hclose, if_pos hzero, reduceCtorEq] at h
      · have hdeep : base + depth ≠ 0 := by omega
        simp only [depthStep, if_neg hopen, if_pos hclose, if_neg hzero, if_neg hdeep,
          Option.some.injEq] at h ⊢
        omega
    · simp only [depthStep, if_neg hopen, if_neg hclose, Option.some.injEq] at h ⊢
      omega

theorem block_append {depth next : Nat} {a : List Token} (h : depthAfter depth a = some next)
    (b : List Token) : block depth (a ++ b) = a ++ block next b := by
  induction a generalizing depth with
  | nil =>
      obtain rfl := Option.some.inj h
      rfl
  | cons token rest ih =>
      obtain ⟨middle, hstep, hrest⟩ := Option.bind_eq_some_iff.mp h
      simp only [List.cons_append, block, hstep, ih hrest]

/-- A balanced part in front of the closing brace is all there is of the body. -/
theorem block_of_balanced {a : List Token} (h : depthAfter 0 a = some 0) (b : List Token) :
    block 0 (a ++ .symbol "\x7d" :: b) = a := by
  rw [block_append h]
  exact List.append_nil a

theorem methodBody_append {name : String} {a : List Token} (h : .word "void" ∉ a)
    (b : List Token) : methodBody name (a ++ b) = methodBody name b := by
  induction a with
  | nil => rfl
  | cons token rest ih =>
      have hrest := ih fun hmem => h (List.mem_cons_of_mem _ hmem)
      have hvoid : token ≠ .word "void" := by
        rintro rfl
        exact h (List.mem_cons_self ..)
      rw [List.cons_append, methodBody]
      · exact hrest
      · rintro other more rfl
        exact fun _ => hvoid rfl

theorem methodBody_eq_none {name : String} {tokens : List Token} (h : .word "void" ∉ tokens) :
    methodBody name tokens = none := by
  have hnone : methodBody name (tokens ++ []) = none := methodBody_append h []
  rwa [List.append_nil] at hnone

/-- The body of a method whose parameters have no braces. -/
theorem methodBody_signature {name : String} {parameters body : List Token}
    (hparameters : .symbol "\x7b" ∉ parameters) (hbody : depthAfter 0 body = some 0)
    (rest : List Token) :
    methodBody name
        (.word "void" :: .word name ::
          (parameters ++ .symbol "\x7b" :: (body ++ .symbol "\x7d" :: rest)))
      = some body := by
  have hskip : ∀ token ∈ parameters, decide (token ≠ .symbol "\x7b") = true := by
    intro token htoken
    rw [decide_eq_true_iff]
    rintro rfl
    exact hparameters htoken
  rw [methodBody, if_pos rfl, List.dropWhile_append_of_pos hskip,
    List.dropWhile_cons_of_neg (by simp)]
  exact congrArg some (block_of_balanced hbody rest)

/-! ## Statements -/

/-- A statement may start behind the token. -/
def endsStatement (token : Token) : Bool :=
  token == .symbol ";" || token == .symbol "\x7b" || token == .symbol "\x7d"

/-- The statements of a body, each with all that follows it, given whether one
starts with the first token. -/
def statementsFrom : Bool → List Token → List (List Token)
  | _, [] => []
  | starts, token :: rest =>
      (if starts then [token :: rest] else []) ++ statementsFrom (endsStatement token) rest

/-! ## Arguments -/

/-- The depth of parentheses after a token; nothing behind one that closes more
than was opened, behind the end of a statement, and behind a comma that stands in
no parentheses. -/
def nestStep (depth : Nat) (token : Token) : Option Nat :=
  if endsStatement token then none
  else if token = .symbol "(" then some (depth + 1)
  else if token = .symbol ")" then (if depth = 0 then none else some (depth - 1))
  else if token = .symbol "," ∧ depth = 0 then none
  else some depth

/-- The tokens can be one argument of a call: what is opened is closed, no statement
ends, and what has commas between it is in parentheses. -/
def IsArgument (tokens : List Token) : Prop := tokens.foldlM nestStep 0 = some 0

instance (tokens : List Token) : Decidable (IsArgument tokens) :=
  inferInstanceAs (Decidable (tokens.foldlM nestStep 0 = some 0))

theorem nestStep_add {depth next : Nat} {token : Token} (h : nestStep depth token = some next)
    (base : Nat) : nestStep (base + depth) token = some (base + next) := by
  unfold nestStep at h ⊢
  split at h
  · cases h
  · next hinside =>
      rw [if_neg hinside]
      split at h
      · next hopen => simp [if_pos hopen, ← Option.some.inj h, Nat.add_assoc]
      · next hopen =>
          rw [if_neg hopen]
          split at h
          · next hclose =>
              split at h
              · cases h
              · next hdeep =>
                  rw [if_pos hclose, if_neg (by omega), ← Option.some.inj h,
                    Nat.add_sub_assoc (Nat.one_le_iff_ne_zero.mpr hdeep)]
          · next hclose =>
              rw [if_neg hclose]
              split at h
              · cases h
              · next hcomma =>
                  have hdeep : ¬(token = .symbol "," ∧ base + depth = 0) := fun hbare =>
                    hcomma ⟨hbare.1, by omega⟩
                  rw [if_neg hdeep, ← Option.some.inj h]

theorem nest_add {depth next : Nat} {tokens : List Token}
    (h : tokens.foldlM nestStep depth = some next) (base : Nat) :
    tokens.foldlM nestStep (base + depth) = some (base + next) := by
  induction tokens generalizing depth with
  | nil =>
      obtain rfl := Option.some.inj h
      rfl
  | cons token rest ih =>
      rw [List.foldlM_cons] at h ⊢
      obtain ⟨middle, hstep, hrest⟩ := Option.bind_eq_some_iff.mp h
      exact Option.bind_eq_some_iff.mpr ⟨base + middle, nestStep_add hstep base, ih hrest⟩

/-- What leads from one depth to another ends no statement on the way. -/
theorem endsStatement_of_nest {depth next : Nat} {tokens : List Token}
    (h : tokens.foldlM nestStep depth = some next) :
    ∀ token ∈ tokens, endsStatement token = false := by
  induction tokens generalizing depth with
  | nil => exact List.forall_mem_nil _
  | cons token rest ih =>
      rw [List.foldlM_cons] at h
      obtain ⟨middle, hstep, hrest⟩ := Option.bind_eq_some_iff.mp h
      refine List.forall_mem_cons.mpr ⟨?_, ih hrest⟩
      cases hends : endsStatement token with
      | false => rfl
      | true => simp [nestStep, hends] at hstep

end ModuleContainers.Lexical
