import ModuleContainers.Proofs.Lexical.Reading

/-!
# Brackets and the members between them

Brackets nest: what was opened last is closed first. The brackets that are open
are a stack, and a token pushes a bracket, pops the one it belongs to, or has to do
with none (`bracketStep`). Tokens are `Balanced` if they start and end with no
bracket open. What is open around some tokens is of no concern to them, so tokens
that get from one stack to another do so on top of any stack (`brackets_append_stack`).

The tokens of a class body fall into members without a parser: a member ends with
the semicolon or the closing brace that stands in no bracket (`memberReader`). For
members that have a block the reader gets back what was put together
(`splitMembers_flatMap`), so a body can be put together from them in one way only.
-/

namespace ModuleContainers.Lexical

/-! ## Open brackets -/

inductive Bracket where
  | round
  | square
  | curly
  deriving Repr, DecidableEq

/-- The bracket that a token opens. -/
def Token.opened : Token → Option Bracket
  | .symbol "(" => some .round
  | .symbol "[" => some .square
  | .symbol "\x7b" => some .curly
  | _ => none

/-- The bracket that a token closes. -/
def Token.closed : Token → Option Bracket
  | .symbol ")" => some .round
  | .symbol "]" => some .square
  | .symbol "\x7d" => some .curly
  | _ => none

/-- The brackets that are open behind a token, the innermost first; nothing behind
a token that closes another bracket than the innermost one. -/
def bracketStep (stack : List Bracket) (token : Token) : Option (List Bracket) :=
  match token.opened, token.closed with
  | some bracket, _ => some (bracket :: stack)
  | none, some bracket => if stack.head? = some bracket then some stack.tail else none
  | none, none => some stack

/-- The brackets that are open behind tokens. -/
def brackets : List Bracket → List Token → Option (List Bracket)
  | stack, [] => some stack
  | stack, token :: rest => (bracketStep stack token).bind fun stack => brackets stack rest

/-- Every bracket is closed by its counterpart, and none is closed that was not
opened. -/
def Balanced (tokens : List Token) : Prop := brackets [] tokens = some []

instance (tokens : List Token) : Decidable (Balanced tokens) :=
  inferInstanceAs (Decidable (brackets [] tokens = some []))

variable {stack stack' : List Bracket} {a b part : List Token}

theorem brackets_append (stack : List Bracket) (a b : List Token) :
    brackets stack (a ++ b) = (brackets stack a).bind fun stack => brackets stack b := by
  induction a generalizing stack with
  | nil => rfl
  | cons token rest ih =>
      simp only [List.cons_append, brackets]
      cases bracketStep stack token with
      | none => rfl
      | some next => exact ih next

theorem bracketStep_append_stack {token : Token} (h : bracketStep stack token = some stack')
    (base : List Bracket) : bracketStep (stack ++ base) token = some (stack' ++ base) := by
  unfold bracketStep at h ⊢
  split at h
  · obtain rfl := Option.some.inj h
    rfl
  · next bracket _ _ =>
      cases stack with
      | nil => simp at h
      | cons top below =>
          by_cases htop : top = bracket
          · simpa [htop] using h
          · simp [htop] at h
  · obtain rfl := Option.some.inj h
    rfl

theorem brackets_append_stack (h : brackets stack part = some stack') (base : List Bracket) :
    brackets (stack ++ base) part = some (stack' ++ base) := by
  induction part generalizing stack with
  | nil =>
      obtain rfl := Option.some.inj h
      rfl
  | cons token rest ih =>
      obtain ⟨next, hstep, hrest⟩ := Option.bind_eq_some_iff.mp h
      rw [brackets, bracketStep_append_stack hstep base]
      exact ih hrest

theorem Balanced.brackets_eq (h : Balanced part) (stack : List Bracket) :
    brackets stack part = some stack :=
  brackets_append_stack h stack

theorem Balanced.append (ha : Balanced a) (hb : Balanced b) : Balanced (a ++ b) := by
  rw [Balanced, brackets_append, ha]
  exact hb

/-- Tokens without brackets. -/
theorem balanced_of_plain (h : ∀ token ∈ part, token.opened = none ∧ token.closed = none) :
    Balanced part := by
  induction part with
  | nil => rfl
  | cons token rest ih =>
      obtain ⟨hopened, hclosed⟩ := h token (List.mem_cons_self ..)
      have hstep : bracketStep [] token = some [] := by simp [bracketStep, hopened, hclosed]
      rw [Balanced, brackets, hstep]
      exact ih fun other hother => h other (List.mem_cons_of_mem _ hother)

theorem balanced_pathTokens (text : String) : Balanced (pathTokens text) := by
  refine balanced_of_plain fun token htoken => ?_
  rcases mem_pathTokens htoken with rfl | ⟨part, -, rfl⟩
  · decide
  · exact ⟨rfl, rfl⟩

theorem balanced_numberTokens (i : Int) : Balanced (numberTokens i) := by
  cases i <;> exact balanced_of_plain (by simp [numberTokens, Token.opened, Token.closed])

/-! ## Members -/

/-- A semicolon or a closing brace. -/
def Token.endsMember (token : Token) : Bool :=
  token == .symbol ";" || token == .symbol "\x7d"

/-- Gives the tokens of every member of a class body. The state is the brackets that
are open, and the tokens of the member that is being read. -/
def memberReader : Transducer Token (List Token) (List Bracket × List Token) where
  step := fun (stack, read) token =>
    (bracketStep stack token).map fun stack =>
      if stack = [] ∧ token.endsMember then ([read ++ [token]], ([], []))
      else ([], (stack, read ++ [token]))
  finish := fun (_, read) => if read = [] then some [] else none

/-- The members of a class body, each with all its tokens. -/
def splitMembers (body : List Token) : Option (List (List Token)) := memberReader.run ([], []) body

/-- A member that has a block: a constructor, or a method that is not abstract. -/
structure Member where
  /-- All that stands in front of the block. -/
  header : List Token
  block : List Token
  header_balanced : Balanced header
  header_plain : ∀ token ∈ header, token.endsMember = false
  block_balanced : Balanced block

def Member.tokens (member : Member) : List Token :=
  member.header ++ .symbol "\x7b" :: member.block ++ [.symbol "\x7d"]

theorem Member.balanced (member : Member) : Balanced member.tokens := by
  have hblock := member.block_balanced.brackets_eq [.curly]
  have hopen : bracketStep [] (.symbol "\x7b") = some [.curly] := rfl
  simp only [Balanced, Member.tokens, brackets_append, member.header_balanced.brackets_eq,
    Option.bind_some, brackets, hopen, hblock]
  rfl

/-- The reader keeps what it reads where no token can end the member. -/
theorem feed_memberReader_plain (h : brackets stack part = some stack')
    (hplain : ∀ token ∈ part, token.endsMember = false) (read : List Token) :
    memberReader.feed (stack, read) part = some ([], (stack', read ++ part)) := by
  induction part generalizing stack read with
  | nil =>
      obtain rfl := Option.some.inj h
      simp
  | cons token rest ih =>
      obtain ⟨next, hstep, hrest⟩ := Option.bind_eq_some_iff.mp h
      have htoken := hplain token (List.mem_cons_self ..)
      have hmore := ih hrest (fun other hother => hplain other (List.mem_cons_of_mem _ hother))
        (read ++ [token])
      simp [Transducer.feed, memberReader, hstep, htoken] at hmore ⊢
      simp [hmore]

/-- Inside a bracket no token can end the member, because the bracket stays open. -/
theorem feed_memberReader_inside {base : List Bracket} (hbase : base ≠ [])
    (h : brackets stack part = some stack') (read : List Token) :
    memberReader.feed (stack ++ base, read) part
      = some ([], (stack' ++ base, read ++ part)) := by
  induction part generalizing stack read with
  | nil =>
      obtain rfl := Option.some.inj h
      simp
  | cons token rest ih =>
      obtain ⟨next, hstep, hrest⟩ := Option.bind_eq_some_iff.mp h
      have hmore := ih hrest (read ++ [token])
      simp [Transducer.feed, memberReader, bracketStep_append_stack hstep base, hbase] at hmore ⊢
      simp [hmore]

/-- A member is read as one, and then nothing is left of it. -/
theorem feed_memberReader_member (member : Member) :
    memberReader.feed ([], []) member.tokens = some ([member.tokens], ([], [])) := by
  have hheader := feed_memberReader_plain member.header_balanced member.header_plain []
  have hopen : memberReader.feed ([], member.header) [.symbol "\x7b"]
      = some ([], ([.curly], member.header ++ [.symbol "\x7b"])) := rfl
  have hblock := feed_memberReader_inside (List.cons_ne_nil Bracket.curly []) member.block_balanced
    (member.header ++ [.symbol "\x7b"])
  have hclose : memberReader.feed ([.curly], member.header ++ [.symbol "\x7b"] ++ member.block)
        [.symbol "\x7d"]
      = some ([member.header ++ [.symbol "\x7b"] ++ member.block ++ [.symbol "\x7d"]], ([], [])) :=
    rfl
  have hall := Transducer.feed_append_of_feed (Transducer.feed_append_of_feed
    (Transducer.feed_append_of_feed hheader hopen) hblock) hclose
  simpa [Member.tokens] using hall

/-- Members that are put behind one another are read as they are. -/
theorem splitMembers_flatMap (members : List Member) :
    splitMembers (members.flatMap Member.tokens) = some (members.map Member.tokens) := by
  have hfeed : memberReader.feed ([], []) (members.flatMap Member.tokens)
      = some (members.map Member.tokens, ([], [])) := by
    induction members with
    | nil => rfl
    | cons member rest ih =>
        exact Transducer.feed_append_of_feed (feed_memberReader_member member) ih
  have hfinish : memberReader.finish ([], []) = some [] := rfl
  have hrun := Transducer.run_of_feed hfeed hfinish
  rwa [List.append_nil] at hrun

theorem balanced_members (members : List Member) : Balanced (members.flatMap Member.tokens) := by
  induction members with
  | nil => rfl
  | cons member rest ih => exact member.balanced.append ih

/-- A semicolon ends a member outside of brackets only. -/
example : splitMembers
    [.word "int", .word "x", .symbol ";", .word "m", .symbol "(", .symbol ")", .symbol "\x7b",
      .word "y", .symbol ";", .symbol "\x7d"]
    = some [[.word "int", .word "x", .symbol ";"],
        [.word "m", .symbol "(", .symbol ")", .symbol "\x7b", .word "y", .symbol ";",
          .symbol "\x7d"]] := by
  decide

end ModuleContainers.Lexical
