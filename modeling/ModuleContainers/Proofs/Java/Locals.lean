import ModuleContainers.Proofs.Java.Fragment

/-!
# Locals in scope

Where a class is followed by a dot and the name of a member, the first part of its
spelling may also be the name of a local variable or a parameter. A compiler then takes
the variable, if one of that name is in scope there.

What is in scope is read from an outline (`Scopes`). A block has the parameters that
stand in front of its brace, and a word in front of an equals sign is declared in the
innermost block. `places` are the classes with a member, each with the locals that are
in scope. Class objects are none of them, since only a type can stand there.

A part of an outline that opens and closes its blocks adds to the innermost block what
it declares itself (`Declares`), so this can be said of a part without what is around
it.
-/

namespace ModuleContainers.Java

open Lexical (Token)

/-! ## Scopes -/

/-- How far an outline was read. -/
structure Scopes where
  /-- The names of each block that is open, the innermost block first. -/
  blocks : List (List String)
  /-- What was read, the last lexeme first. -/
  read : Outline
  deriving Repr, DecidableEq

namespace Scopes

def start : Scopes := ⟨[[]], []⟩

/-- The names of variables and parameters that are in scope. -/
def locals (s : Scopes) : List String := s.blocks.flatten

/-- The names of parameters, read backwards from where the parentheses close. A name
stands in front of a comma and of the end. -/
def parameterNames : Bool → Outline → List String
  | true, .token (.word name) :: rest => name :: parameterNames false rest
  | _, .token (.symbol ",") :: rest => parameterNames true rest
  | _, .token (.symbol "(") :: _ => []
  | _, _ :: rest => parameterNames false rest
  | _, [] => []

/-- The parameters of a block that opens behind what was read: those of a method, or
those of a lambda. -/
def parameters : Outline → List String
  | .token (.symbol "->") :: .token (.word name) :: _ => [name]
  | .token (.symbol "->") :: .token (.symbol ")") :: rest => parameterNames true rest
  | .token (.symbol ")") :: rest => parameterNames true rest
  | _ => []

def step (s : Scopes) (lexeme : Lexeme) : Scopes where
  blocks :=
    match lexeme, s.read, s.blocks with
    | .token (.symbol "\x7b"), read, blocks => parameters read :: blocks
    | .token (.symbol "\x7d"), _, blocks => blocks.tail
    | .token (.symbol "="), .token (.word name) :: _, top :: below => (name :: top) :: below
    | _, _, blocks => blocks
  read := lexeme :: s.read

/-- The scopes behind a part. -/
def after (s : Scopes) (p : Outline) : Scopes := p.foldl step s

variable {s : Scopes} {p q : Outline}

theorem after_append : s.after (p ++ q) = (s.after p).after q := List.foldl_append

theorem read_after : (s.after p).read = p.reverse ++ s.read := by
  induction p generalizing s with
  | nil => rfl
  | cons lexeme rest ih => simpa [after, step] using ih (s := s.step lexeme)

end Scopes

/-! ## Members of classes -/

/-- A class that is followed by a member. -/
structure Place where
  target : ClassName
  member : String
  /-- What is in scope there. -/
  locals : List String
  deriving Repr, DecidableEq

/-- The class and the member that the outline starts with. A class object has none. -/
def memberAt? : Outline → Option (ClassName × String)
  | .reference target :: .token (.symbol ".") :: .token (.word member) :: _ =>
      if member = "class" then none else some (target, member)
  | _ => none

def placeAt? (s : Scopes) (outline : Outline) : Option Place :=
  (memberAt? outline).map fun (target, member) => ⟨target, member, s.locals⟩

def places : Scopes → Outline → List Place
  | _, [] => []
  | s, lexeme :: rest => (placeAt? s (lexeme :: rest)).toList ++ places (s.step lexeme) rest

variable {s : Scopes} {p q : Outline} {place : Place}

theorem placeAt?_eq_some {outline : Outline} :
    placeAt? s outline = some place ↔ place.member ≠ "class" ∧ place.locals = s.locals ∧ ∃ rest,
      outline = .reference place.target :: .token (.symbol ".")
        :: .token (.word place.member) :: rest := by
  obtain ⟨target, member, locals⟩ := place
  unfold placeAt? memberAt?
  split
  · next other name more =>
      constructor
      · intro h
        split at h
        · cases h
        · next hname =>
            cases h
            exact ⟨hname, rfl, more, rfl⟩
      · rintro ⟨hmember, hlocals, rest, heq⟩
        cases heq
        cases hlocals
        rw [if_neg hmember]
        rfl
  · next hnone =>
      simp only [Option.map_none, reduceCtorEq, false_iff, not_and, not_exists]
      exact fun _ _ rest => hnone _ _ rest

/-- The places are wherever a class and a member stand, with what is in scope behind
all that stands in front of them. -/
theorem mem_places {outline : Outline} :
    place ∈ places s outline ↔ place.member ≠ "class" ∧ ∃ before rest,
      place.locals = (s.after before).locals
        ∧ outline = before ++ .reference place.target :: .token (.symbol ".")
          :: .token (.word place.member) :: rest := by
  induction outline generalizing s with
  | nil => simp [places]
  | cons lexeme outline ih =>
      rw [places, List.mem_append, Option.mem_toList, placeAt?_eq_some, ih]
      constructor
      · rintro (⟨hmember, hlocals, rest, heq⟩ | ⟨hmember, before, rest, hlocals, rfl⟩)
        · exact ⟨hmember, [], rest, hlocals, heq⟩
        · exact ⟨hmember, lexeme :: before, rest, hlocals, rfl⟩
      · rintro ⟨hmember, before, rest, hlocals, heq⟩
        cases before with
        | nil => exact .inl ⟨hmember, hlocals, rest, heq⟩
        | cons first before =>
            obtain ⟨rfl, rfl⟩ := List.cons.inj heq
            exact .inr ⟨hmember, before, rest, hlocals, rfl⟩

theorem target_mem_references {outline : Outline} (h : place ∈ places s outline) :
    place.target ∈ outline.references := by
  obtain ⟨-, before, rest, -, rfl⟩ := mem_places.mp h
  simp [Outline.references]

/-! ## Passing over a part -/

/-- The places from here on are those behind the part, and in the part none but such. -/
def Passes (ok : Place → Prop) (s : Scopes) (p : Outline) : Prop :=
  ∀ rest, ∀ place ∈ places s (p ++ rest), ok place ∨ place ∈ places (s.after p) rest

variable {ok ok' : Place → Prop}

theorem passes_nil : Passes ok s [] := fun _ _ h => .inr h

theorem Passes.append (hp : Passes ok s p) (hq : Passes ok (s.after p) q) :
    Passes ok s (p ++ q) := by
  intro rest place hplace
  rw [List.append_assoc] at hplace
  rw [Scopes.after_append]
  exact (hp _ place hplace).elim .inl (hq rest place)

theorem Passes.mono (hp : Passes ok s p) (h : ∀ place, ok place → ok' place) : Passes ok' s p :=
  fun rest place hplace => (hp rest place hplace).imp_left (h place)

/-- Nothing but a class starts a place. -/
theorem passes_of_references (h : Outline.references p = []) : Passes ok s p := by
  induction p generalizing s with
  | nil => exact passes_nil
  | cons lexeme more ih =>
      cases lexeme with
      | reference target => cases h
      | token token => exact fun rest place hplace => ih h rest place hplace

/-- A class with all that stands behind it. -/
theorem passes_reference {target : ClassName} (hp : Outline.references p = [])
    (h : ∀ rest place, placeAt? s (.reference target :: p ++ rest) = some place → ok place) :
    Passes ok s (.reference target :: p) := by
  intro rest place hplace
  rw [List.cons_append, places, List.mem_append, Option.mem_toList] at hplace
  rcases hplace with hplace | hplace
  · exact .inl (h rest place hplace)
  · exact passes_of_references hp rest place hplace

/-! ## What a part declares -/

/-- The tokens that matter for what is in scope. -/
def scopeTokens : List Token := [.symbol "\x7b", .symbol "\x7d", .symbol "="]

/-- The part has no class, opens and closes no block, and declares nothing. -/
def Plain (p : Outline) : Prop := ∀ lexeme ∈ p, ∃ token, lexeme = .token token ∧ token ∉ scopeTokens

/-- No token of the text matters for what is in scope. -/
def isPlain (text : String) : Bool := (codeTokens text).all fun token => token ∉ scopeTokens

theorem plain_code (text : String) (h : isPlain text = true) : Plain (code text) := by
  intro lexeme hlexeme
  obtain ⟨token, htoken, rfl⟩ := List.mem_map.mp hlexeme
  exact ⟨token, rfl, by simpa using List.all_eq_true.mp h token htoken⟩

theorem plain_word (name : String) : Plain (word name) := by simp [Plain, word, scopeTokens]

theorem plain_quoted (value : String) : Plain (quoted value) := by
  simp [Plain, quoted, scopeTokens]

theorem plain_number (i : Int) : Plain (number i) := by
  cases i <;> simp [Plain, number, Lexical.numberTokens, scopeTokens]

theorem Plain.append (hp : Plain p) (hq : Plain q) : Plain (p ++ q) :=
  List.forall_mem_append.mpr ⟨hp, hq⟩

theorem Plain.append_code (hp : Plain p) (text : String)
    (h : isPlain text = true) : Plain (p ++ code text) :=
  hp.append (plain_code text h)

theorem Plain.references (hp : Plain p) : Outline.references p = [] := by
  rw [Outline.references, List.filterMap_eq_nil_iff]
  intro lexeme hlexeme
  obtain ⟨token, rfl, -⟩ := hp lexeme hlexeme
  rfl

theorem step_of_not_mem {token : Token} (h : token ∉ scopeTokens) :
    (s.step (.token token)).blocks = s.blocks := by
  simp only [scopeTokens, List.mem_cons, List.not_mem_nil, or_false, not_or] at h
  unfold Scopes.step
  split <;> simp_all

theorem Plain.blocks_after (hp : Plain p) : (s.after p).blocks = s.blocks := by
  induction p generalizing s with
  | nil => rfl
  | cons lexeme rest ih =>
      obtain ⟨token, rfl, htoken⟩ := hp lexeme (List.mem_cons_self ..)
      have hrest : Plain rest := fun other hother => hp other (List.mem_cons_of_mem _ hother)
      exact (ih hrest).trans (step_of_not_mem htoken)

/-- The part goes on behind a class, and not with a member of it. -/
def endsName : Outline → Bool
  | .token (.symbol ".") :: .token (.word name) :: _ => name == "class"
  | .token (.symbol symbol) :: _ => symbol != "."
  | .token (.word _) :: _ => true
  | _ => false

theorem memberAt?_of_endsName (h : endsName p = true) (target : ClassName) (rest : Outline) :
    memberAt? (.reference target :: p ++ rest) = none := by
  unfold endsName at h
  split at h
  · obtain rfl := beq_iff_eq.mp h
    rfl
  · next symbol more hmember =>
      rw [bne_iff_ne] at h
      unfold memberAt?
      split
      · next heq =>
          simp only [List.cons_append, List.cons.injEq, Lexeme.token.injEq, Token.symbol.injEq]
            at heq
          exact absurd heq.2.1 h
      · rfl
  · rfl
  · cases h

/-! ## From blocks to blocks -/

/-- With the first blocks open in front of the part, the other ones are open behind it. -/
def Leads (ok : Place → Prop) (before : List (List String)) (p : Outline)
    (after : List (List String)) : Prop :=
  ∀ s : Scopes, s.blocks = before → Passes ok s p ∧ (s.after p).blocks = after

variable {x y z : List (List String)}

theorem Leads.append (hp : Leads ok x p y) (hq : Leads ok y q z) : Leads ok x (p ++ q) z := by
  intro s hs
  obtain ⟨hpasses, hblocks⟩ := hp s hs
  obtain ⟨hpasses', hblocks'⟩ := hq (s.after p) hblocks
  exact ⟨hpasses.append hpasses', Scopes.after_append ▸ hblocks'⟩

theorem Leads.mono (hp : Leads ok x p y) (h : ∀ place, ok place → ok' place) : Leads ok' x p y :=
  fun s hs => ⟨(hp s hs).1.mono h, (hp s hs).2⟩

theorem Plain.leads (hp : Plain p) : Leads ok x p x := fun _ hs =>
  ⟨passes_of_references hp.references, hp.blocks_after.trans hs⟩

theorem blocks_after_open :
    (s.after (code "\x7b")).blocks = Scopes.parameters s.read :: s.blocks := by
  have hcode : code "\x7b" = [.token (.symbol "\x7b")] := by decide
  rw [hcode]
  rfl

/-- The parameters of a block can be told from what stands in front of it. -/
theorem leads_open {opening : Outline} {names : List String} (h : Leads ok x opening y)
    (hparameters : ∀ read, Scopes.parameters (opening.reverse ++ read) = names) :
    Leads ok x (opening ++ code "\x7b") (names :: y) := by
  intro s hs
  obtain ⟨hpasses, hblocks⟩ := h s hs
  refine ⟨hpasses.append (passes_of_references (Outline.references_map_token _)), ?_⟩
  rw [Scopes.after_append, blocks_after_open, Scopes.read_after, hparameters, hblocks]

theorem leads_close {top : List String} : Leads ok (top :: x) (code "\x7d") x := by
  intro s hs
  have hcode : code "\x7d" = [.token (.symbol "\x7d")] := by decide
  refine ⟨passes_of_references (Outline.references_map_token _), ?_⟩
  rw [hcode]
  exact congrArg List.tail hs

section Declares

variable (known : String → Prop) (allowed : ClassName → Prop)

/-- A place of an allowed class, where only known names are in scope. -/
def Usual (place : Place) : Prop := allowed place.target ∧ ∀ name ∈ place.locals, known name

/-- The part closes the blocks that it opens, and declares the names in the block that
it stands in. Among known names it has usual places only. -/
structure Declares (p : Outline) (names : List String) : Prop where
  names_known : ∀ name ∈ names, known name
  leads : ∀ {top : List String} {below : List (List String)},
    (∀ name ∈ (top :: below).flatten, known name) →
      Leads (Usual known allowed) (top :: below) p ((names ++ top) :: below)

/-- What declares nothing. -/
abbrev Neutral (p : Outline) : Prop := Declares known allowed p []

end Declares

variable {known : String → Prop} {allowed : ClassName → Prop} {a b : List String}

theorem Declares.append (hp : Declares known allowed p a) (hq : Declares known allowed q b) :
    Declares known allowed (p ++ q) (b ++ a) where
  names_known := List.forall_mem_append.mpr ⟨hq.names_known, hp.names_known⟩
  leads {top below} hknown := by
    have hbetween : ∀ name ∈ ((a ++ top) :: below).flatten, known name := by
      rw [List.flatten_cons, List.append_assoc]
      exact List.forall_mem_append.mpr ⟨hp.names_known, hknown⟩
    rw [List.append_assoc]
    exact (hp.leads hknown).append (hq.leads hbetween)

theorem Declares.prepend (hq : Declares known allowed q a) (hp : Neutral known allowed p) :
    Declares known allowed (p ++ q) a := by
  have hall := Declares.append hp hq
  rwa [List.append_nil] at hall

theorem Plain.neutral (hp : Plain p) : Neutral known allowed p where
  names_known _ hname := absurd hname List.not_mem_nil
  leads _ := hp.leads

theorem neutral_nil : Neutral known allowed [] :=
  Plain.neutral fun _ h => absurd h List.not_mem_nil

theorem neutral_code (text : String) (h : isPlain text = true) :
    Neutral known allowed (code text) := (plain_code text h).neutral

theorem Declares.append_code (hp : Declares known allowed p a) (text : String)
    (h : isPlain text = true) :
    Declares known allowed (p ++ code text) a := hp.append (neutral_code text h)

theorem neutral_reference {target : ClassName} (hp : Plain p)
    (h : endsName p = true ∨ allowed target) :
    Neutral known allowed (.reference target :: p) where
  names_known _ hname := absurd hname List.not_mem_nil
  leads hknown s hs := by
    refine ⟨passes_reference hp.references fun rest place hplace => ?_, hp.blocks_after.trans hs⟩
    rcases h with hend | htarget
    · rw [placeAt?, memberAt?_of_endsName hend] at hplace
      cases hplace
    · obtain ⟨-, hlocals, more, heq⟩ := placeAt?_eq_some.mp hplace
      obtain ⟨rfl, -⟩ : target = place.target ∧ _ := by simpa using heq
      refine ⟨htarget, ?_⟩
      rw [hlocals, Scopes.locals, hs]
      exact hknown

theorem neutral_named_code (target : ClassName) (text : String)
    (h : isPlain text = true) (hend : endsName (code text) = true) :
    Neutral known allowed (named target ++ code text) :=
  neutral_reference (plain_code text h) (.inl hend)

/-- A member of an allowed class. -/
theorem neutral_member {target : ClassName} (htarget : allowed target) (text : String)
    (h : isPlain text = true) :
    Neutral known allowed (named target ++ code text) :=
  neutral_reference (plain_code text h) (.inr htarget)

theorem neutral_flatMap {α : Type} {outline : α → Outline} {items : List α}
    (h : ∀ item ∈ items, Neutral known allowed (outline item)) :
    Neutral known allowed (items.flatMap outline) :=
  flatMap_closed neutral_nil Declares.append h

theorem neutral_listed {items : List Outline} (h : ∀ item ∈ items, Neutral known allowed item) :
    Neutral known allowed (listed items) :=
  listed_induction neutral_nil (neutral_code "," rfl) Declares.append h

/-- An equals sign declares the word in front of it. -/
theorem blocks_after_assign {name : String} {top : List String} {below : List (List String)}
    (hs : s.blocks = top :: below) :
    (s.after (word name ++ code "=")).blocks = (name :: top) :: below := by
  have hcode : code "=" = [.token (.symbol "=")] := by decide
  obtain ⟨blocks, read⟩ := s
  obtain rfl : blocks = top :: below := hs
  rw [hcode]
  rfl

theorem declares_assign {name : String} (h : known name) :
    Declares known allowed (word name ++ code "=") [name] where
  names_known := List.forall_mem_singleton.mpr h
  leads _ _ hs := ⟨passes_of_references rfl, blocks_after_assign hs⟩

/-- A variable with a class as its type. -/
theorem declares_typed (target : ClassName) {name : String} (h : known name) :
    Declares known allowed (named target ++ (word name ++ code "=")) [name] where
  names_known := List.forall_mem_singleton.mpr h
  leads _ s hs :=
    ⟨passes_reference rfl fun rest place hplace => (by cases hplace),
      blocks_after_assign (s := s.step (.reference target)) hs⟩

/-- A block with what stands in front of it. -/
theorem Declares.block {opening : Outline} {names : List String}
    (hopening : Neutral known allowed opening)
    (hparameters : ∀ read, Scopes.parameters (opening.reverse ++ read) = names)
    (hnames : ∀ name ∈ names, known name) (hp : Declares known allowed p a) :
    Neutral known allowed (opening ++ code "\x7b" ++ p ++ code "\x7d") where
  names_known _ hname := absurd hname List.not_mem_nil
  leads {top below} hknown := by
    have hinside : ∀ name ∈ (names :: top :: below).flatten, known name :=
      List.forall_mem_append.mpr ⟨hnames, hknown⟩
    exact ((leads_open (hopening.leads hknown) hparameters).append (hp.leads hinside)).append
      leads_close

end ModuleContainers.Java
