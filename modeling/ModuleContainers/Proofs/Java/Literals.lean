import ModuleContainers.Proofs.Java.CompilationUnit

/-!
# Literals of outlines

The values of the string literals of an outline can be listed, and they can be masked,
which leaves all that is code. An outline that is made from a blank one by putting texts
into its literals is known in both ways at once (`Fills`), and it is put together as the
blank is.
-/

namespace ModuleContainers.Lexical

/-- The text that a token stands for, if the token is a string literal. -/
def Token.literal? : Token → Option String
  | .literal value => some value
  | _ => none

/-- The values of the string literals, in order. -/
def literals (tokens : List Token) : List String := tokens.filterMap Token.literal?

@[simp] theorem literals_append (a b : List Token) :
    literals (a ++ b) = literals a ++ literals b :=
  List.filterMap_append

theorem literals_pathTokens (text : String) : literals (pathTokens text) = [] := by
  refine List.filterMap_eq_nil_iff.mpr fun token htoken => ?_
  rcases mem_pathTokens htoken with rfl | ⟨part, -, rfl⟩ <;> rfl

/-- The token without the value of a literal. -/
def Token.masked : Token → Token
  | .literal _ => .literal ""
  | token => token

theorem masked_pathTokens (text : String) :
    (pathTokens text).map Token.masked = pathTokens text := by
  have hpart : ∀ token ∈ pathTokens text, token.masked = token := by
    intro token htoken
    rcases mem_pathTokens htoken with rfl | ⟨part, -, rfl⟩ <;> rfl
  exact (List.map_congr_left hpart).trans (List.map_id _)

end ModuleContainers.Lexical

namespace ModuleContainers.Java

open Lexical (Token)

/-! ## Literals of outlines -/

def Lexeme.masked : Lexeme → Lexeme
  | .token t => .token t.masked
  | .reference target => .reference target

namespace Outline

/-- The values of the string literals of an outline. A class is never one. -/
def literals (outline : Outline) : List String :=
  outline.filterMap fun
    | .token token => token.literal?
    | .reference _ => none

theorem literals_tokens (spell : ClassName → String) (outline : Outline) :
    Lexical.literals (outline.tokens spell) = outline.literals := by
  induction outline with
  | nil => rfl
  | cons lexeme rest ih =>
      have hsplit : tokens spell (lexeme :: rest) = tokens spell [lexeme] ++ tokens spell rest :=
        tokens_append spell [lexeme] rest
      rw [hsplit, Lexical.literals_append, ih]
      cases lexeme with
      | token token => cases token <;> rfl
      | reference target =>
          have hpath : tokens spell [.reference target] = Lexical.pathTokens (spell target) :=
            tokens_named spell target
          rw [hpath, Lexical.literals_pathTokens]
          rfl

@[simp] theorem literals_append (a b : Outline) : literals (a ++ b) = literals a ++ literals b :=
  List.filterMap_append

@[simp] theorem literals_number (i : Int) : literals (number i) = [] := by cases i <;> rfl

/-- Code that is known has no literal. -/
theorem literals_code (text : String) (h : Lexical.literals (codeTokens text) = []) :
    literals (code text) = [] := by
  rw [← literals_tokens fun _ => "", tokens_code, h]

theorem literals_flatMap {α : Type} (outline : α → Outline) (items : List α) :
    literals (items.flatMap outline) = items.flatMap fun item => literals (outline item) := by
  induction items with
  | nil => rfl
  | cons item rest ih => rw [List.flatMap_cons, literals_append, ih, List.flatMap_cons]

theorem literals_listed (outlines : List Outline) :
    literals (listed outlines) = outlines.flatMap literals := by
  have hcomma : literals (code ",") = [] := literals_code "," rfl
  induction outlines with
  | nil => rfl
  | cons first rest ih =>
      cases rest with
      | nil => simp [listed]
      | cons next more =>
          rw [listed, List.intercalate_cons_cons, literals_append, literals_append, hcomma,
            List.append_nil, List.flatMap_cons]
          exact congrArg _ ih

def masked (outline : Outline) : Outline := outline.map Lexeme.masked

@[simp] theorem masked_append (a b : Outline) : masked (a ++ b) = masked a ++ masked b :=
  List.map_append

theorem masked_flatMap {α : Type} (outline : α → Outline) (items : List α) :
    masked (items.flatMap outline) = items.flatMap fun item => (outline item).masked :=
  List.map_flatMap

theorem masked_listed (outlines : List Outline) :
    (listed outlines).masked = listed (outlines.map masked) := by
  have hcomma : (code ",").masked = code "," := by decide
  simp only [listed]
  induction outlines with
  | nil => rfl
  | cons first rest ih =>
      cases rest with
      | nil => simp
      | cons next more =>
          simp only [List.map_cons, List.intercalate_cons_cons, masked_append, hcomma] at ih ⊢
          rw [ih]

theorem references_masked (outline : Outline) : outline.masked.references = outline.references := by
  induction outline with
  | nil => rfl
  | cons lexeme rest ih =>
      cases lexeme with
      | token token => exact ih
      | reference target => exact congrArg (target :: ·) ih

theorem tokens_masked (spell : ClassName → String) (outline : Outline) :
    outline.masked.tokens spell = (outline.tokens spell).map Token.masked := by
  induction outline with
  | nil => rfl
  | cons lexeme rest ih =>
      cases lexeme with
      | token token => exact congrArg (token.masked :: ·) ih
      | reference target =>
          have hsplit : tokens spell (.reference target :: rest)
              = Lexical.pathTokens (spell target) ++ tokens spell rest := rfl
          have hmasked : tokens spell (masked (.reference target :: rest))
              = Lexical.pathTokens (spell target) ++ tokens spell (masked rest) := rfl
          rw [hsplit, hmasked, List.map_append, Lexical.masked_pathTokens, ih]

end Outline

/-- The tokens of a file but for the values of its literals are known from the
outline but for those values. -/
theorem CompilationUnit.masked_fileTokens (package typeName : String) {a b : Outline}
    (h : a.masked = b.masked) :
    (fileTokens package typeName a).map Token.masked
      = (fileTokens package typeName b).map Token.masked := by
  have hreferences : a.references = b.references := by
    rw [← Outline.references_masked a, h, Outline.references_masked]
  simp only [fileTokens, List.map_append, ← Outline.tokens_masked, h, hreferences]

/-! ## Filled outlines -/

/-- The part is the blank with the texts in its literals, one in each. -/
structure Fills (blank : Outline) (texts : List String) (p : Outline) : Prop where
  masked : p.masked = blank.masked
  literals : p.literals = texts

/-- The same of items that stand in one list. -/
structure FillsAll (blanks : List Outline) (texts : List String) (items : List Outline) : Prop where
  masked : items.map Outline.masked = blanks.map Outline.masked
  literals : items.flatMap Outline.literals = texts

/-- A part without a literal is its own blank. -/
abbrev Bare (p : Outline) : Prop := Fills p [] p

variable {blank rest p q : Outline} {blanks items : List Outline} {texts more : List String}

theorem bare_of_literals (h : p.literals = []) : Bare p := ⟨rfl, h⟩

theorem bare_nil : Bare [] := bare_of_literals rfl

theorem bare_code (text : String) (h : Lexical.literals (codeTokens text) = []) :
    Bare (code text) :=
  bare_of_literals (Outline.literals_code text h)

theorem bare_named (target : ClassName) : Bare (named target) := bare_of_literals rfl

theorem bare_word (name : String) : Bare (word name) := bare_of_literals rfl

theorem bare_number (i : Int) : Bare (number i) := bare_of_literals (Outline.literals_number i)

/-- A text stands in a literal, and in the blank the literal is empty. -/
theorem fills_quoted (value : String) : Fills (quoted "") [value] (quoted value) := ⟨rfl, rfl⟩

theorem Fills.congr (hp : Fills blank texts p) (h : texts = more) : Fills blank more p := h ▸ hp

theorem Fills.append (hp : Fills blank texts p) (hq : Fills rest more q) :
    Fills (blank ++ rest) (texts ++ more) (p ++ q) where
  masked := by rw [Outline.masked_append, hp.masked, hq.masked, Outline.masked_append]
  literals := by rw [Outline.literals_append, hp.literals, hq.literals]

theorem Fills.append_bare (hp : Fills blank texts p) (hq : Bare q) :
    Fills (blank ++ q) texts (p ++ q) := by
  have hall := hp.append hq
  rwa [List.append_nil] at hall

theorem Fills.append_code (hp : Fills blank texts p) (text : String)
    (h : Lexical.literals (codeTokens text) = []) :
    Fills (blank ++ code text) texts (p ++ code text) :=
  hp.append_bare (bare_code text h)

theorem fillsAll_nil : FillsAll [] [] [] := ⟨rfl, rfl⟩

theorem FillsAll.cons (hp : Fills blank texts p) (h : FillsAll blanks more items) :
    FillsAll (blank :: blanks) (texts ++ more) (p :: items) where
  masked := by rw [List.map_cons, List.map_cons, hp.masked, h.masked]
  literals := by rw [List.flatMap_cons, hp.literals, h.literals]

theorem FillsAll.listed (h : FillsAll blanks texts items) :
    Fills (listed blanks) texts (listed items) where
  masked := by rw [Outline.masked_listed, h.masked, Outline.masked_listed]
  literals := by rw [Outline.literals_listed, h.literals]

section Mapped

variable {α : Type} {empty outline : α → Outline} {given : α → List String} {xs : List α}
  (h : ∀ x ∈ xs, Fills (empty x) (given x) (outline x))

include h

theorem fills_flatMap : Fills (xs.flatMap empty) (xs.flatMap given) (xs.flatMap outline) where
  masked := by
    rw [Outline.masked_flatMap, Outline.masked_flatMap]
    exact List.flatMap_congr fun x hx => (h x hx).masked
  literals := by
    rw [Outline.literals_flatMap]
    exact List.flatMap_congr fun x hx => (h x hx).literals

theorem fillsAll_map : FillsAll (xs.map empty) (xs.flatMap given) (xs.map outline) where
  masked := by
    rw [List.map_map, List.map_map]
    exact List.map_congr_left fun x hx => (h x hx).masked
  literals := by
    rw [List.flatMap_map]
    exact List.flatMap_congr fun x hx => (h x hx).literals

end Mapped

end ModuleContainers.Java
