import Mathlib.Data.List.Forall2
import ModuleContainers.Java.CompilationUnit
import ModuleContainers.Proofs.Lexical.Quoting

/-!
# Fragments as tokens

How a fragment is rendered depends on where it stands: on the level of
indentation, on whether its first line has been begun, on the unit of indentation
and on the spelling of classes. None of that changes which tokens it has but the
spelling, and the spelling only changes the names. So a fragment has an outline:
its tokens, with the classes left symbolic (`Lexeme`).

`Fragment.Reads` says that a fragment has an outline, wherever and however it is
rendered. There is one lemma for each way to build a fragment, and an emitter is
read off by going along its body. A piece that may end in a word needs a piece
after it that starts with a stop (`Fragment.opens`). A fragment has one outline only
(`Fragment.Reads.unique`).
-/

namespace ModuleContainers.Java

open Lexical (Ending ReadsAs Token isStop isTerminator pathTokens)

/-- A token of a fragment, or a class that will be spelled there. -/
inductive Lexeme where
  | token (token : Token)
  | reference (target : ClassName)
  deriving Repr, DecidableEq

/-- What a fragment reads as, with its classes left symbolic. -/
abbrev Outline := List Lexeme

namespace Outline

/-- The tokens of an outline, for a spelling of classes. -/
def tokens (spell : ClassName → String) (outline : Outline) : List Token :=
  outline.flatMap fun
    | .token token => [token]
    | .reference target => pathTokens (spell target)

/-- The classes of an outline in order, each as often as it stands there. -/
def references (outline : Outline) : List ClassName :=
  outline.filterMap fun
    | .token _ => none
    | .reference target => some target

@[simp] theorem tokens_append (spell : ClassName → String) (a b : Outline) :
    tokens spell (a ++ b) = tokens spell a ++ tokens spell b := by
  simp [tokens]

@[simp] theorem references_append (a b : Outline) :
    references (a ++ b) = references a ++ references b := by
  simp [references]

theorem tokens_map_token (spell : ClassName → String) (tokens : List Token) :
    Outline.tokens spell (tokens.map .token) = tokens := by
  induction tokens with
  | nil => rfl
  | cons token rest ih => exact congrArg (token :: ·) ih

theorem references_map_token (tokens : List Token) :
    references (tokens.map .token) = [] := by
  induction tokens with
  | nil => rfl
  | cons token rest ih => exact ih

end Outline

/-- The tokens of code that is known. -/
def codeTokens (text : String) : List Token := (Lexical.lex text).getD []

/-- The outline of known code. -/
def code (text : String) : Outline := (codeTokens text).map .token

/-- The outline of an identifier that is no class. -/
def word (text : String) : Outline := [.token (.word text)]

/-- The outline of a number, which is two tokens where there is a sign. -/
def number (i : Int) : Outline := (Lexical.numberTokens i).map .token

/-- The outline of a string literal. -/
def quoted (value : String) : Outline := [.token (.literal value)]

/-- The outline of a reference to a class. -/
def named (target : ClassName) : Outline := [.reference target]

/-- Outlines with commas between them. -/
def listed (outlines : List Outline) : Outline := (code ",").intercalate outlines

namespace Outline

section Tokens

variable (spell : ClassName → String)

@[simp] theorem tokens_code (text : String) : tokens spell (code text) = codeTokens text :=
  tokens_map_token spell _

@[simp] theorem tokens_word (text : String) : tokens spell (word text) = [.word text] := rfl

@[simp] theorem tokens_number (i : Int) : tokens spell (number i) = Lexical.numberTokens i :=
  tokens_map_token spell _

@[simp] theorem tokens_quoted (value : String) : tokens spell (quoted value) = [.literal value] :=
  rfl

@[simp] theorem tokens_named (target : ClassName) :
    tokens spell (named target) = pathTokens (spell target) :=
  List.append_nil _

end Tokens

end Outline

theorem listed_cons (first : Outline) (rest : List Outline) :
    listed (first :: rest) = first ++ rest.flatMap (code "," ++ ·) := by
  induction rest generalizing first with
  | nil => simp [listed]
  | cons next more ih =>
      have hmore := ih next
      rw [listed] at hmore ⊢
      rw [List.intercalate_cons_cons, hmore]
      simp

/-- What holds for the items and for commas, and for outlines behind one another,
holds for the list. -/
theorem listed_induction {P : Outline → Prop} {items : List Outline} (hnil : P [])
    (hcomma : P (code ",")) (happend : ∀ {a b : Outline}, P a → P b → P (a ++ b))
    (h : ∀ item ∈ items, P item) : P (listed items) := by
  induction items with
  | nil => exact hnil
  | cons first rest ih =>
      have hfirst := h first (List.mem_cons_self ..)
      have hrest := ih fun item hitem => h item (List.mem_cons_of_mem _ hitem)
      cases rest with
      | nil => simpa [listed] using hfirst
      | cons next more =>
          rw [listed, List.intercalate_cons_cons]
          exact happend (happend hfirst hcomma) hrest

/-- What goes over to appended parts holds of the parts of all items. -/
theorem flatMap_closed {α : Type} {P : Outline → Prop} {outline : α → Outline} {items : List α}
    (hnil : P []) (happend : ∀ {p q : Outline}, P p → P q → P (p ++ q))
    (h : ∀ item ∈ items, P (outline item)) : P (items.flatMap outline) := by
  induction items with
  | nil => exact hnil
  | cons item rest ih =>
      rw [List.flatMap_cons]
      exact happend (h item (List.mem_cons_self ..))
        (ih fun other hother => h other (List.mem_cons_of_mem _ hother))

/-- The same where something is read from each part, and is put together as the parts
are. -/
theorem flatMap_closed₂ {α β : Type} {P : Outline → List β → Prop} {outline : α → Outline}
    {value : α → List β} {items : List α} (hnil : P [] [])
    (happend : ∀ {p q : Outline} {a b : List β}, P p a → P q b → P (p ++ q) (a ++ b))
    (h : ∀ item ∈ items, P (outline item) (value item)) :
    P (items.flatMap outline) (items.flatMap value) := by
  induction items with
  | nil => exact hnil
  | cons item rest ih =>
      rw [List.flatMap_cons, List.flatMap_cons]
      exact happend (h item (List.mem_cons_self ..))
        (ih fun other hother => h other (List.mem_cons_of_mem _ hother))

/-- A unit of indentation made of blanks, and a spelling of classes by paths. -/
structure Rendering where
  unit : String
  spell : ClassName → String
  unit_blank : ∀ c ∈ unit.toList, c = ' ' ∨ c = '\t'
  spell_path : ∀ c : ClassName, c.WellFormed → IsPath (spell c)

namespace Rendering

/-- Classes written without their package. -/
def plain : Rendering where
  unit := ""
  spell := ClassName.nestedPath
  unit_blank := by simp
  spell_path _ h := h.isPath_nestedPath

theorem padding_blank (rendering : Rendering) (level : Nat) :
    ∀ c ∈ (Fragment.padding rendering.unit level).toList, c = ' ' ∨ c = '\t' := by
  induction level with
  | zero => simp [Fragment.padding]
  | succ level ih =>
      intro c hc
      rw [Fragment.padding, String.toList_append, List.mem_append] at hc
      exact hc.elim (rendering.unit_blank c) (ih c)

end Rendering

namespace Fragment

/-- The source of a fragment on a level, where a line may have been begun. -/
def source (rendering : Rendering) (level : Nat) (fresh : Bool) (f : Fragment) : List Char :=
  (f.renderFrom rendering.unit rendering.spell level fresh).toList

section Source

variable (rendering : Rendering) (level : Nat) (fresh : Bool)

@[simp] theorem source_nil : source rendering level fresh [] = [] := rfl

theorem source_text (text : String) (rest : Fragment) :
    source rendering level fresh (.text text :: rest)
      = (if fresh then padding rendering.unit level else "").toList
        ++ (text.toList ++ source rendering level false rest) := by
  simp [source, renderFrom]

theorem source_type (target : ClassName) (rest : Fragment) :
    source rendering level fresh (.type target :: rest)
      = (if fresh then padding rendering.unit level else "").toList
        ++ ((rendering.spell target).toList ++ source rendering level false rest) := by
  simp [source, renderFrom]

theorem source_newline (rest : Fragment) :
    source rendering level fresh (.newline :: rest)
      = '\n' :: source rendering level true rest := by
  simp [source, renderFrom]

theorem source_indent (rest : Fragment) :
    source rendering level fresh (.indent :: rest) = source rendering (level + 1) fresh rest := rfl

theorem source_unindent (rest : Fragment) :
    source rendering level fresh (.unindent :: rest) = source rendering (level - 1) fresh rest :=
  rfl

/-- What a fragment leaves for the next one is a level and whether a line has
been begun. -/
theorem source_append (f : Fragment) :
    ∃ level' fresh', ∀ g : Fragment, source rendering level fresh (f ++ g)
      = source rendering level fresh f ++ source rendering level' fresh' g := by
  induction f generalizing level fresh with
  | nil => exact ⟨level, fresh, fun g => rfl⟩
  | cons part rest ih =>
      cases part with
      | text text =>
          obtain ⟨level', fresh', h⟩ := ih level false
          exact ⟨level', fresh', fun g => by simp [source_text, h]⟩
      | type target =>
          obtain ⟨level', fresh', h⟩ := ih level false
          exact ⟨level', fresh', fun g => by simp [source_type, h]⟩
      | newline =>
          obtain ⟨level', fresh', h⟩ := ih level true
          exact ⟨level', fresh', fun g => by simp [source_newline, h]⟩
      | indent => exact ih (level + 1) fresh
      | unindent => exact ih (level - 1) fresh

/-- What is written before the first text of a line. -/
theorem begin_blank :
    ∀ c ∈ (if fresh then padding rendering.unit level else "").toList, c = ' ' ∨ c = '\t' := by
  cases fresh with
  | true => exact rendering.padding_blank level
  | false => simp

end Source

/-! ## How a fragment starts -/

/-- The fragment starts with a stop, after whatever indentation. -/
def opens : Fragment → Bool
  | .text text :: _ => text.toList.head?.any isStop
  | .newline :: _ => true
  | .indent :: rest | .unindent :: rest => opens rest
  | _ => false

theorem isStop_of_blank {c : Char} (h : c = ' ' ∨ c = '\t') : isStop c = true := by
  rcases h with rfl | rfl <;> decide

/-- A fragment that starts with a stop does so wherever it is rendered: what is put before it
are blanks, and a blank is a stop too. -/
theorem exists_of_opens {f : Fragment} (h : f.opens = true) (rendering : Rendering) (level : Nat)
    (fresh : Bool) : ∃ c rest, isStop c = true ∧ source rendering level fresh f = c :: rest := by
  fun_induction opens f generalizing level fresh with
  | case1 text rest =>
      rw [source_text]
      have hblank := begin_blank rendering level fresh
      cases hbegin : (if fresh then padding rendering.unit level else "").toList with
      | cons c more =>
          exact ⟨c, _, isStop_of_blank (hblank c (hbegin ▸ List.mem_cons_self ..)), rfl⟩
      | nil =>
          cases htext : text.toList with
          | nil => simp [htext] at h
          | cons c more => exact ⟨c, _, by simpa [htext] using h, rfl⟩
  | case2 rest => exact ⟨'\n', _, by decide, source_newline ..⟩
  | case3 rest ih => exact ih h (level + 1) fresh
  | case4 rest ih => exact ih h (level - 1) fresh
  | case5 => cases h

/-! ## The judgment -/

/-- Wherever and however the fragment is rendered, it has the outline. -/
structure Reads (e : Ending) (f : Fragment) (outline : Outline) : Prop where
  types : f.types = outline.references
  wellFormed : ∀ c ∈ outline.references, c.WellFormed
  source : ∀ rendering level fresh,
    ReadsAs e (f.source rendering level fresh) (outline.tokens rendering.spell)

variable {e e' : Ending} {f g : Fragment} {a b : Outline}

theorem Reads.loosen (h : f.Reads e a) : f.Reads .loose a :=
  ⟨h.types, h.wellFormed, fun rendering level fresh => (h.source rendering level fresh).loosen⟩

theorem reads_nil : Reads .sealed [] [] :=
  ⟨rfl, by simp [Outline.references], fun _ _ _ => Lexical.readsAs_nil⟩

theorem types_append (f g : Fragment) : types (f ++ g) = f.types ++ g.types :=
  List.filterMap_append

theorem types_of_append (hf : f.Reads e a) (hg : g.Reads e' b) :
    (f ++ g).types = (a ++ b).references := by
  rw [types_append, hf.types, hg.types, Outline.references_append]

theorem wellFormed_of_append (hf : f.Reads e a) (hg : g.Reads e' b) :
    ∀ c ∈ (a ++ b).references, c.WellFormed := by
  intro c hc
  rw [Outline.references_append, List.mem_append] at hc
  exact hc.elim (hf.wellFormed c) (hg.wellFormed c)

/-- A sealed fragment needs nothing behind it, so whatever follows is read by itself. -/
theorem Reads.append (hf : f.Reads .sealed a) (hg : g.Reads e b) : (f ++ g).Reads e (a ++ b) := by
  refine ⟨types_of_append hf hg, wellFormed_of_append hf hg, fun rendering level fresh => ?_⟩
  obtain ⟨level', fresh', hsource⟩ := source_append rendering level fresh f
  rw [hsource, Outline.tokens_append]
  exact (hf.source ..).append (hg.source ..)

/-- A loose fragment may end in a word; a stop behind it ends the word. -/
theorem Reads.append_stop (hf : f.Reads e a) (hg : g.Reads e' b)
    (hstop : g.opens = true) : (f ++ g).Reads e' (a ++ b) := by
  refine ⟨types_of_append hf hg, wellFormed_of_append hf hg, fun rendering level fresh => ?_⟩
  obtain ⟨level', fresh', hsource⟩ := source_append rendering level fresh f
  obtain ⟨c, rest, hc, hcons⟩ := exists_of_opens hstop rendering level' fresh'
  have hread := hg.source rendering level' fresh'
  rw [hcons] at hread
  rw [hsource, Outline.tokens_append, hcons]
  exact (hf.source ..).append_stop hread hc

/-! ## Parts -/

/-- Indentation before a piece does not count. -/
theorem readsAs_begin (rendering : Rendering) (level : Nat) (fresh : Bool) {text : List Char}
    {tokens : List Token} (h : ReadsAs e text tokens) :
    ReadsAs e ((if fresh then padding rendering.unit level else "").toList ++ text) tokens := by
  have hblank : ReadsAs .sealed (if fresh then padding rendering.unit level else "").toList [] := by
    refine Lexical.readsAs_blanks fun c hc => ?_
    rcases begin_blank rendering level fresh c hc with rfl | rfl <;> decide
  exact hblank.append h

theorem text_eq {text : String} (h : '\n' ∉ text.toList) :
    Fragment.text text = if text = "" then [] else [.text text] := by
  have hsplit : Text.splitOn '\n' text = [text] := by
    simp [Text.splitOn, List.splitOn_eq_singleton h]
  rw [Fragment.text, hsplit, ofLines]

theorem types_ofLines (lines : List String) : (ofLines lines).types = [] := by
  fun_induction ofLines lines with
  | case1 => rfl
  | case2 => rfl
  | case3 => rfl
  | case4 line rest hrest ih =>
      rw [types_append]
      split <;> exact ih

theorem types_text (text : String) : (Fragment.text text).types = [] := types_ofLines _

/-- A line of text, and the lines after it. -/
theorem renderFrom_line {text : String} (hline : '\n' ∉ text.toList) (hne : text ≠ "")
    (unit : String) (spell : ClassName → String) (level : Nat) (fresh : Bool) (rest : Fragment) :
    renderFrom unit spell level fresh (Fragment.line (Fragment.text text) ++ rest)
      = (if fresh then padding unit level else "")
        ++ text ++ ("\n" ++ renderFrom unit spell level true rest) := by
  simp [Fragment.line, newline, text_eq hline, hne, renderFrom]

/-- A line of text is rendered with its indentation and its line break, and the next line is
begun. -/
theorem source_line {text : String} (hline : '\n' ∉ text.toList) (hne : text ≠ "")
    (rendering : Rendering) (level : Nat) (fresh : Bool) (rest : Fragment) :
    source rendering level fresh (Fragment.line (Fragment.text text) ++ rest)
      = (if fresh then padding rendering.unit level else "").toList
        ++ (text.toList ++ ['\n'] ++ source rendering level true rest) := by
  simp [source, renderFrom_line hline hne]

/-- Lines of text without anything else are the same for every unit and spelling. -/
theorem render_lines {lines : List String} (h : ∀ line ∈ lines, '\n' ∉ line.toList ∧ line ≠ "")
    (unit : String) (spell : ClassName → String) :
    (render unit spell (lines.flatMap fun line => Fragment.line (Fragment.text line))).toList
      = (lines.map String.toList).flatMap (· ++ ['\n']) := by
  induction lines with
  | nil => rfl
  | cons line rest ih =>
      obtain ⟨hline, hne⟩ := h line (List.mem_cons_self ..)
      have hrest := ih fun other ho => h other (List.mem_cons_of_mem _ ho)
      rw [render] at hrest ⊢
      rw [List.flatMap_cons, renderFrom_line hline hne]
      simp [padding, hrest]

theorem opens_text {text : String} (hline : '\n' ∉ text.toList)
    (h : text.toList.head?.any isStop = true) : (Fragment.text text).opens = true := by
  have hne : text ≠ "" := by
    rintro rfl
    cases h
  rw [text_eq hline, if_neg hne, opens, h]

/-- A text without line breaks that reads as the tokens. -/
structure ReadsLine (e : Ending) (text : String) (tokens : List Token) : Prop where
  line : '\n' ∉ text.toList
  reads : ReadsAs e text.toList tokens

theorem ReadsLine.loosen {s : String} {x : List Token} (h : ReadsLine e s x) :
    ReadsLine .loose s x :=
  ⟨h.line, h.reads.loosen⟩

theorem ReadsLine.append {s t : String} {x y : List Token} (hs : ReadsLine .sealed s x)
    (ht : ReadsLine e t y) : ReadsLine e (s ++ t) (x ++ y) := by
  refine ⟨by simp [hs.line, ht.line], ?_⟩
  rw [String.toList_append]
  exact hs.reads.append ht.reads

theorem ReadsLine.append_stop {s t : String} {x y : List Token} (hs : ReadsLine e s x)
    (ht : ReadsLine e' t y) (hstop : t.toList.head?.any isStop = true) :
    ReadsLine e' (s ++ t) (x ++ y) := by
  refine ⟨by simp [hs.line, ht.line], ?_⟩
  have hread := ht.reads
  rw [String.toList_append]
  cases htext : t.toList with
  | nil => simp [htext] at hstop
  | cons c rest =>
      rw [htext] at hread hstop
      exact hs.reads.append_stop hread (by simpa using hstop)

/-- An identifier is a word as long as nothing continues it. -/
theorem readsLine_word {name : String} (h : hasIdentifierShape name.toList = true) :
    ReadsLine .loose name [.word name] := by
  have hread := Lexical.readsAs_word h
  rw [String.ofList_toList] at hread
  exact ⟨not_mem_of_hasIdentifierShape h (by decide), hread⟩

theorem readsLine_int (i : Int) : ReadsLine .loose (toString i) (Lexical.numberTokens i) := by
  refine ⟨fun hmem => ?_, Lexical.readsAs_int i⟩
  have hdigits : ∀ n : Nat, '\n' ∉ (toString n).toList := by
    intro n hn
    have hdigit := Lexical.isDigit_of_mem_repr hn
    revert hdigit
    decide
  cases i with
  | ofNat n => exact hdigits n hmem
  | negSucc n =>
      rw [show toString (Int.negSucc n) = "-" ++ toString (n + 1) from rfl, String.toList_append,
        List.mem_append] at hmem
      rcases hmem with hsign | hn
      · revert hsign; decide
      · exact hdigits _ hn

theorem reads_text {text : String} {tokens : List Token} (h : ReadsLine e text tokens) :
    (Fragment.text text).Reads e (tokens.map .token) := by
  rw [text_eq h.line]
  refine ⟨?_, ?_, fun rendering level fresh => ?_⟩
  · rw [Outline.references_map_token]
    split <;> rfl
  · simp [Outline.references_map_token]
  · rw [Outline.tokens_map_token]
    split
    · next hempty =>
        subst hempty
        exact h.reads
    · rw [source_text, source_nil, List.append_nil]
      exact readsAs_begin _ _ _ h.reads

/-- The text is one line of code that ends in that way. -/
def isCode (e : Ending) (text : String) : Bool :=
  !text.toList.contains '\n' && Lexical.readsAs e text.toList (codeTokens text)

/-- Known code is read by evaluation. -/
theorem readsLine_code (e : Ending) (text : String) (h : isCode e text = true) :
    ReadsLine e text (codeTokens text) := by
  simp only [isCode, Bool.and_eq_true, Bool.not_eq_true', List.contains_eq_mem,
    decide_eq_false_iff_not] at h
  exact ⟨h.1, Lexical.readsAs_iff.mp h.2⟩

theorem reads_code (e : Ending) (text : String) (h : isCode e text = true) :
    (Fragment.text text).Reads e (code text) :=
  reads_text (readsLine_code e text h)

/-- The text is one line of code, and whatever it stands behind ends there. -/
def cutsOff (text : String) : Bool := isCode .sealed text && text.toList.head?.any isStop

theorem ReadsLine.append_code {s : String} {x : List Token} (h : ReadsLine e s x) (text : String)
    (hcut : cutsOff text = true) : ReadsLine .sealed (s ++ text) (x ++ codeTokens text) := by
  obtain ⟨hcode, hstop⟩ := Bool.and_eq_true_iff.mp hcut
  exact h.append_stop (readsLine_code .sealed text hcode) hstop

theorem Reads.append_code (h : f.Reads e a) (text : String) (hcut : cutsOff text = true) :
    (f ++ Fragment.text text).Reads .sealed (a ++ code text) := by
  obtain ⟨hcode, hstop⟩ := Bool.and_eq_true_iff.mp hcut
  have hread := readsLine_code .sealed text hcode
  exact h.append_stop (reads_text hread) (opens_text hread.line hstop)

theorem isTerminator_of_mem_literalChar {c d : Char} (h : d ∈ literalChar c) :
    isTerminator d = false := by
  rcases Lexical.literalChar_cases c with ⟨e, hc, hmem⟩ | ⟨⟨-, -, hline⟩, ⟨hc, -⟩ | hc⟩
  · obtain ⟨-, he⟩ := Lexical.escapeValue_of_mem hmem
    rw [hc] at h
    rcases List.mem_pair.mp h with rfl | rfl
    · decide
    · by_contra hterminator
      simp only [isTerminator, Bool.not_eq_false, Bool.or_eq_true, beq_iff_eq] at hterminator
      rcases hterminator with rfl | rfl <;> cases he
  · have hdigit : ∀ n < 16, isTerminator (hexDigit n) = false := by decide
    have hmod : ∀ n, isTerminator (hexDigit (n % 16)) = false := fun n =>
      hdigit _ (Nat.mod_lt _ (by decide))
    rw [hc] at h
    simp only [unitEscape, List.mem_cons, List.not_mem_nil, or_false] at h
    rcases h with rfl | rfl | rfl | rfl | rfl | rfl
    · decide
    · decide
    all_goals exact hmod _
  · rw [hc, List.mem_singleton] at h
    rwa [h]

theorem isTerminator_of_mem_stringLiteral {value : String} {d : Char}
    (h : d ∈ (stringLiteral value).toList) : isTerminator d = false := by
  simp only [stringLiteral, literalChars, String.toList_ofList, List.cons_append, List.mem_cons,
    List.mem_append, List.mem_flatMap, List.not_mem_nil, or_false] at h
  rcases h with rfl | ⟨c, -, hmem⟩ | rfl
  · decide
  · exact isTerminator_of_mem_literalChar hmem
  · decide

theorem break_not_mem_stringLiteral (value : String) : '\n' ∉ (stringLiteral value).toList :=
  fun hmem => absurd (isTerminator_of_mem_stringLiteral hmem) (by decide)

/-- A literal has no line breaks in it, whatever its value has, so it is part of a line. -/
theorem reads_literal (value : String) : (literal value).Reads .loose (quoted value) :=
  reads_text ⟨break_not_mem_stringLiteral value, Lexical.readsAs_stringLiteral value⟩

theorem reads_type {target : ClassName} (h : target.WellFormed) :
    (type target).Reads .loose (named target) := by
  refine ⟨rfl, by simpa [named, Outline.references] using h, fun rendering level fresh => ?_⟩
  rw [type, source_type, source_nil, List.append_nil]
  have hpath := Lexical.readsAs_path (rendering.spell_path target h)
  simpa [named, Outline.tokens] using readsAs_begin _ _ _ hpath

theorem reads_newline : newline.Reads .sealed [] := by
  refine ⟨rfl, by simp [Outline.references], fun rendering level fresh => ?_⟩
  rw [newline, source_newline]
  exact Lexical.readsAs_blank (by decide)

/-- A line break ends whatever the line ends in. -/
theorem Reads.line (h : f.Reads e a) : (line f).Reads .sealed a := by
  have hline := h.append_stop reads_newline rfl
  rwa [List.append_nil] at hline

/-- On whatever level, a fragment has the same tokens. -/
theorem Reads.indented (h : f.Reads e a) : (indented f).Reads e a := by
  have htypes : (Fragment.indented f).types = f.types := by
    rw [Fragment.indented, types_append, types_append]
    exact List.append_nil _
  refine ⟨htypes.trans h.types, h.wellFormed, fun rendering level fresh => ?_⟩
  obtain ⟨level', fresh', hsource⟩ := source_append rendering (level + 1) fresh f
  have heq : (Fragment.indented f).source rendering level fresh
      = f.source rendering (level + 1) fresh := by
    rw [Fragment.indented, List.append_assoc, List.singleton_append, source_indent, hsource]
    simp [source_unindent]
  rw [heq]
  exact h.source ..

/-! ## Lists of fragments -/

/-- Sealed fragments one behind the other. -/
theorem Reads.concat {fs : List Fragment} {outlines : List Outline}
    (h : List.Forall₂ (Reads .sealed) fs outlines) :
    (Fragment.concat fs).Reads .sealed outlines.flatten := by
  induction h with
  | nil => exact reads_nil
  | cons hf _ ih => exact hf.append ih

theorem reads_moreArguments {fs : List Fragment} {outlines : List Outline}
    (h : List.Forall₂ (Reads .loose) fs outlines) {f : Fragment} {a : Outline}
    (hf : f.Reads .loose a) :
    (f ++ moreArguments fs).Reads .loose (listed (a :: outlines)) := by
  induction h generalizing f a with
  | nil => simpa [moreArguments, listed] using hf
  | @cons g b gs bs hg _ ih =>
      have hcomma : (Fragment.text ",").Reads .sealed (code ",") := reads_code .sealed "," rfl
      have hrest := hcomma.append (reads_newline.append (ih hg))
      have hall := hf.append_stop hrest rfl
      simpa [moreArguments, listed, List.append_assoc] using hall

/-- Arguments are broken into lines by their number, which does not show in the tokens. -/
theorem Reads.arguments {fs : List Fragment} {outlines : List Outline}
    (h : List.Forall₂ (Reads .loose) fs outlines) :
    (Fragment.arguments fs).Reads .loose (listed outlines) := by
  cases h with
  | nil => exact reads_nil.loosen
  | @cons f a fs as hf hrest =>
      have hbody := (reads_newline.append (reads_moreArguments hrest hf)).indented.indented
      have heq : Fragment.arguments (f :: fs)
          = Fragment.indented (Fragment.indented (newline ++ (f ++ moreArguments fs))) := by
        simp [Fragment.arguments, Fragment.indented]
      rw [heq]
      exact hbody

theorem Reads.join {fs : List Fragment} {outlines : List Outline}
    (h : List.Forall₂ (Reads .loose) fs outlines) :
    (Fragment.join ", " fs).Reads .loose (listed outlines) := by
  induction h with
  | nil => exact reads_nil.loosen
  | @cons f a fs as hf hrest ih =>
      cases hrest with
      | nil => simpa [Fragment.join, listed] using hf
      | @cons g b gs bs hg hrest =>
          have hsame : code ", " = code "," := by decide
          have hall := (hf.append_code ", " rfl).append ih
          simpa [Fragment.join, listed, hsame, List.append_assoc] using hall

theorem Reads.eq_nil (h : Reads e [] a) : a = [] := by
  cases a with
  | nil => rfl
  | cons lexeme rest =>
      cases lexeme with
      | reference target =>
          have htypes := h.types
          cases htypes
      | token token =>
          obtain ⟨out, mode, last, hfeed, -, hclose, htokens⟩ := h.source Rendering.plain 0 true
          obtain ⟨rfl, rfl⟩ : out = [] ∧ mode = .between := by
            simpa [Lexical.fresh, eq_comm] using hfeed
          obtain rfl : [] = last := Option.some.inj hclose
          cases htokens

theorem reads_separate {fs : List Fragment} {outlines : List Outline}
    (h : List.Forall₂ (Reads .sealed) fs outlines) :
    (joinBlocks.separate fs).Reads .sealed outlines.flatten := by
  induction h with
  | nil => exact reads_nil
  | @cons f a fs as hf hrest ih =>
      cases hrest with
      | nil => simpa [joinBlocks.separate] using hf
      | cons _ _ => simpa [joinBlocks.separate] using (hf.append reads_newline).append ih

/-- Blocks without a part have no tokens, so it does not matter that they are
dropped. -/
theorem Reads.joinBlocks {fs : List Fragment} {outlines : List Outline}
    (h : List.Forall₂ (Reads .sealed) fs outlines) :
    (Fragment.joinBlocks fs).Reads .sealed outlines.flatten := by
  suffices hkept : ∃ kept, List.Forall₂ (Reads .sealed) (fs.filter fun f => !f.isEmpty) kept
      ∧ kept.flatten = outlines.flatten by
    obtain ⟨kept, hall, heq⟩ := hkept
    rw [← heq]
    exact reads_separate hall
  induction h with
  | nil => exact ⟨[], .nil, rfl⟩
  | @cons f a fs as hf _ ih =>
      obtain ⟨kept, hall, heq⟩ := ih
      cases f with
      | nil => exact ⟨kept, hall, by simp [hf.eq_nil, heq]⟩
      | cons part rest => exact ⟨a :: kept, .cons hf hall, by simp [heq]⟩

end Fragment

/-! ## One outline -/

variable {e e' : Ending} {f : Fragment} {a b : Outline}

/-- Every class is written as one word. -/
def Rendering.always (name : String) (h : IsPath name) : Rendering where
  unit := ""
  spell _ := name
  unit_blank := by simp
  spell_path _ _ := h

/-- Lexemes are one token each where every class is one word. -/
def Lexeme.tokenWith (name : String) : Lexeme → Token
  | .token known => known
  | .reference _ => .word name

/-- If all classes are spelled by one word, each lexeme is one token. -/
theorem tokens_always {name : String} (h : pathTokens name = [.word name]) (outline : Outline) :
    outline.tokens (fun _ => name) = outline.map (Lexeme.tokenWith name) := by
  induction outline with
  | nil => rfl
  | cons lexeme rest ih =>
      rw [List.map_cons, ← ih]
      cases lexeme with
      | token token => rfl
      | reference target => exact congrArg (· ++ Outline.tokens (fun _ => name) rest) h

/-- Two outlines of a fragment agree under every such spelling. -/
theorem map_tokenWith_eq (ha : f.Reads e a) (hb : f.Reads e' b) {name : String}
    (hpath : IsPath name) (hword : pathTokens name = [.word name]) :
    a.map (Lexeme.tokenWith name) = b.map (Lexeme.tokenWith name) := by
  have hfirst := (ha.source (Rendering.always name hpath) 0 true).lex
  rw [(hb.source (Rendering.always name hpath) 0 true).lex] at hfirst
  rw [← tokens_always hword, ← tokens_always hword]
  exact (Option.some.inj hfirst).symm

/-- A fragment has one outline. Two words for all classes tell the classes from the
words: what is written in two ways is a class. -/
theorem Fragment.Reads.unique (ha : f.Reads e a) (hb : f.Reads e' b) : a = b := by
  have hpaths : ∀ name ∈ ["x", "y"], IsPath name ∧ pathTokens name = [.word name] := by
    unfold IsPath
    decide
  have hmap : ∀ name ∈ ["x", "y"],
      a.map (Lexeme.tokenWith name) = b.map (Lexeme.tokenWith name) := fun name hname =>
    map_tokenWith_eq ha hb (hpaths name hname).1 (hpaths name hname).2
  have hx := hmap "x" (by decide)
  have hy := hmap "y" (by decide)
  have hclasses := ha.types.symm.trans hb.types
  clear ha hb hmap
  induction a generalizing b with
  | nil => exact (List.map_eq_nil_iff.mp hx.symm).symm
  | cons first rest ih =>
      cases b with
      | nil => cases hx
      | cons other others =>
          obtain ⟨hfirst, hrest⟩ := List.cons.inj hx
          obtain ⟨hfirst', hrest'⟩ := List.cons.inj hy
          cases first with
          | token token =>
              cases other with
              | token token' =>
                  obtain rfl : token = token' := hfirst
                  rw [ih hrest hrest' hclasses]
              | reference target =>
                  obtain rfl : token = .word "x" := hfirst
                  exact absurd (Token.word.inj hfirst') (by decide)
          | reference target =>
              cases other with
              | token token' =>
                  obtain rfl : .word "x" = token' := hfirst
                  exact absurd (Token.word.inj hfirst') (by decide)
              | reference target' =>
                  obtain ⟨rfl, hmore⟩ : target = target'
                      ∧ Outline.references rest = Outline.references others :=
                    List.cons.inj hclasses
                  rw [ih hrest hrest' hmore]

end ModuleContainers.Java
