import ModuleContainers.Proofs.Java.Comment
import ModuleContainers.Proofs.Java.CompilationUnit
import ModuleContainers.Proofs.Text.Lines

/-!
# The layout of fragments

What a fragment does to the layout of a text can be read off its parts. A part of text
leaves the line as its last character says, a class leaves it behind a character that
is not blank, and a line break has to stand where a line can end; besides, no level is
left that has not been entered (`layout`). Indentation needs no care: it is written
with the first text of a line only, so it is never all that a line has.

If the layout of a fragment is good, its source is read from its start to its end,
whatever the unit of indentation and the spelling of classes are (`readAll_source`),
so a file whose body has a good layout is tidy (`tidy_render`).

`Lays` says that a fragment leads from one place to another and back to the level it
started on. Most fragments do so wherever they stand, hence the starting place is
mostly left open.
-/

namespace ModuleContainers.Java

open Lexical (isTerminator)
open Text (Place endOf endOf_append readAll_of_line)

/-! ## Lines of text -/

/-- The text has no line break and no carriage return. -/
def IsLine (text : String) : Prop := ∀ c ∈ text.toList, isTerminator c = false

-- Written out, because what is found for `∀ c` may also go through all characters.
instance (text : String) : Decidable (IsLine text) :=
  List.decidableBAll (fun c => isTerminator c = false) text.toList

theorem IsLine.append {a b : String} (ha : IsLine a) (hb : IsLine b) : IsLine (a ++ b) := by
  intro c hc
  rw [String.toList_append] at hc
  exact (List.mem_append.mp hc).elim (ha c) (hb c)

theorem isTerminator_of_not_isBlank {c : Char} (h : Text.isBlank c = false) :
    isTerminator c = false := by
  by_contra hc
  simp only [isTerminator, Bool.not_eq_false, Bool.or_eq_true, beq_iff_eq] at hc
  rcases hc with rfl | rfl <;> exact absurd h (by decide)

theorem isLine_of_not_isBlank {text : String} (h : ∀ c ∈ text.toList, Text.isBlank c = false) :
    IsLine text := fun c hc => isTerminator_of_not_isBlank (h c hc)

theorem endOf_of_not_isBlank {text : String} (hne : text ≠ "")
    (h : ∀ c ∈ text.toList, Text.isBlank c = false) : endOf text.toList = some .solid := by
  have hchars : text.toList ≠ [] := by simpa using hne
  simp [endOf, List.getLast?_eq_some_getLast hchars, h _ (List.getLast_mem hchars)]

/-- The place behind a text that is a part of a line. -/
def placeOf (text : String) : Option Place := if IsLine text then endOf text.toList else none

theorem placeOf_eq_some {text : String} {place : Place} :
    placeOf text = some place ↔ IsLine text ∧ endOf text.toList = some place := by
  unfold placeOf
  split
  · next hline => simp [hline]
  · next hline => simp [hline]

theorem readAll_of_placeOf {text : String} {place next : Place} (h : placeOf text = some next) :
    place.readAll text.toList = some next := by
  obtain ⟨hline, hend⟩ := placeOf_eq_some.mp h
  exact readAll_of_line (fun c hc => by simpa [isTerminator] using hline c hc) hend

theorem placeOf_append {a b : String} {place : Place} (ha : IsLine a)
    (hb : placeOf b = some place) : placeOf (a ++ b) = some place := by
  obtain ⟨hline, hend⟩ := placeOf_eq_some.mp hb
  refine placeOf_eq_some.mpr ⟨ha.append hline, ?_⟩
  rw [String.toList_append]
  exact endOf_append _ hend

theorem placeOf_of_not_isBlank {text : String} (hne : text ≠ "")
    (h : ∀ c ∈ text.toList, Text.isBlank c = false) : placeOf text = some .solid :=
  placeOf_eq_some.mpr ⟨isLine_of_not_isBlank h, endOf_of_not_isBlank hne h⟩

theorem placeOf_path {text : String} (h : IsPath text) : placeOf text = some .solid :=
  placeOf_of_not_isBlank h.ne_empty (not_isBlank_of_mem_path h)

theorem placeOf_word {name : String} (h : hasIdentifierShape name.toList = true) :
    placeOf name = some .solid := by
  have hne : name ≠ "" := by
    rintro rfl
    cases h
  exact placeOf_of_not_isBlank hne fun c hc =>
    not_isBlank_of_isIdentifierPart (isIdentifierPart_of_mem h c hc)

theorem placeOf_int (i : Int) : placeOf (toString i) = some .solid := by
  have hdigits : ∀ n : Nat, ∀ c ∈ (toString n).toList, Text.isBlank c = false := fun n c hc =>
    not_isBlank_of_isIdentifierPart
      (Lexical.step_digit c (Lexical.mem_digits (Lexical.isDigit_of_mem_repr hc))).2.2
  have hnumber : ∀ n : Nat, placeOf (toString n) = some .solid := fun n =>
    placeOf_of_not_isBlank (fun hempty => Lexical.repr_ne_nil n (by rw [hempty]; rfl)) (hdigits n)
  cases i with
  | ofNat n => exact hnumber n
  | negSucc n =>
      have hsign : toString (Int.negSucc n) = "-" ++ toString (n + 1) := rfl
      rw [hsign]
      exact placeOf_append (by decide) (hnumber _)

theorem placeOf_stringLiteral (value : String) : placeOf (stringLiteral value) = some .solid := by
  refine placeOf_eq_some.mpr ⟨fun c hc => Fragment.isTerminator_of_mem_stringLiteral hc, ?_⟩
  rw [stringLiteral, literalChars, String.toList_ofList]
  exact endOf_append _ rfl

/-- A text whose blanks at the end were dropped, if anything is left of it. -/
theorem endOf_dropEnd {text : List Char} (hne : Text.dropEnd text ≠ []) :
    endOf (Text.dropEnd text) = some .solid := by
  rw [Text.dropEnd] at hne ⊢
  have hhead := List.head?_dropWhile_not (p := Text.isBlank) text.reverse
  cases hkept : text.reverse.dropWhile Text.isBlank with
  | nil => simp [hkept] at hne
  | cons c rest =>
      have hc : Text.isBlank c = false := by simpa [hkept] using hhead
      simp [endOf, hc]

namespace Fragment

/-! ## Layout -/

/-- The place and the level behind a part. -/
def layoutStep : Place × Nat → Part → Option (Place × Nat)
  | (_, level), .text text => (placeOf text).map (·, level)
  | (_, level), .type _ => some (.solid, level)
  | (place, level), .newline => place.newline.map (·, level)
  | (place, level), .indent => some (place, level + 1)
  | (_, 0), .unindent => none
  | (place, level + 1), .unindent => some (place, level)

/-- The place and the level behind a fragment; nothing where a line cannot end, where a
text is empty or not a part of a line, and where a level is left too often. -/
def layout : Place × Nat → Fragment → Option (Place × Nat)
  | state, [] => some state
  | state, part :: rest => (layoutStep state part).bind fun next => layout next rest

theorem layout_append (state : Place × Nat) (f g : Fragment) :
    layout state (f ++ g) = (layout state f).bind fun next => layout next g := by
  induction f generalizing state with
  | nil => rfl
  | cons part rest ih =>
      simp only [List.cons_append, layout]
      cases layoutStep state part with
      | none => rfl
      | some next => exact ih next

/-! ## Source -/

theorem readAll_begin (rendering : Rendering) (level : Nat) (place : Place) :
    ∃ next, place.readAll (if place.fresh then padding rendering.unit level else "").toList
      = some next := by
  have hblank := begin_blank rendering level place.fresh
  cases hbegin : (if place.fresh then padding rendering.unit level else "").toList with
  | nil => exact ⟨place, rfl⟩
  | cons c rest =>
      rw [hbegin] at hblank
      obtain ⟨next, hnext⟩ : ∃ next, endOf (c :: rest) = some next :=
        ⟨_, by rw [endOf, List.getLast?_cons]; rfl⟩
      refine ⟨next, readAll_of_line (fun d hd => ?_) hnext⟩
      rcases hblank d hd with rfl | rfl <;> decide

theorem fresh_of_placeOf {text : String} {place : Place} (h : placeOf text = some place) :
    place.fresh = false := by
  obtain ⟨c, -, hplace⟩ := Option.map_eq_some_iff.mp (placeOf_eq_some.mp h).2
  split at hplace <;> cases hplace <;> rfl

/-- Text behind the indentation of its line, if it is the first on the line. -/
theorem readAll_begun (rendering : Rendering) (level : Nat) (place : Place) {text : String}
    {next last : Place} (h : placeOf text = some next) {rest : List Char}
    (hrest : next.readAll rest = some last) :
    place.readAll ((if place.fresh then padding rendering.unit level else "").toList
      ++ (text.toList ++ rest)) = some last := by
  obtain ⟨begun, hbegun⟩ := readAll_begin rendering level place
  exact Place.readAll_append_of hbegun (Place.readAll_append_of (readAll_of_placeOf h) hrest)

/-- The source of a fragment with a good layout is read to its end. -/
theorem readAll_source {f : Fragment} (rendering : Rendering)
    (hwf : ∀ c ∈ f.types, c.WellFormed) {place last : Place} {level level' : Nat}
    (h : layout (place, level) f = some (last, level')) :
    place.readAll (f.source rendering level place.fresh) = some last := by
  induction f generalizing place level with
  | nil =>
      obtain ⟨rfl, -⟩ := Prod.mk.inj (Option.some.inj h)
      rfl
  | cons part rest ih =>
      obtain ⟨⟨next, middle⟩, hstep, hrest⟩ := Option.bind_eq_some_iff.mp h
      have htypes : ∀ c ∈ types rest, ClassName.WellFormed c := by
        intro c hc
        refine hwf c ?_
        rw [← List.singleton_append, types_append]
        exact List.mem_append_right _ hc
      have hsource := ih htypes hrest
      cases part with
      | text text =>
          obtain ⟨found, hplace, heq⟩ := Option.map_eq_some_iff.mp hstep
          obtain ⟨rfl, rfl⟩ := Prod.mk.inj heq
          rw [fresh_of_placeOf hplace] at hsource
          rw [source_text]
          exact readAll_begun rendering level place hplace hsource
      | type target =>
          obtain ⟨rfl, rfl⟩ := Prod.mk.inj (Option.some.inj hstep)
          have hpath := rendering.spell_path target (hwf target (List.mem_cons_self ..))
          rw [source_type]
          exact readAll_begun rendering level place (placeOf_path hpath) hsource
      | newline =>
          obtain ⟨found, hbreak, heq⟩ := Option.map_eq_some_iff.mp hstep
          obtain ⟨rfl, rfl⟩ := Prod.mk.inj heq
          have hfresh : found.fresh = true := by
            cases place <;> cases hbreak <;> rfl
          rw [hfresh] at hsource
          rw [source_newline]
          exact Place.readAll_append_of (a := ['\n'])
            (by simp [Place.readAll, Place.read, hbreak]) hsource
      | indent =>
          obtain ⟨rfl, rfl⟩ := Prod.mk.inj (Option.some.inj hstep)
          rw [source_indent]
          exact hsource
      | unindent =>
          cases level with
          | zero => cases hstep
          | succ level =>
              obtain ⟨rfl, rfl⟩ := Prod.mk.inj (Option.some.inj hstep)
              rw [source_unindent]
              exact hsource

/-! ## The judgment -/

/-- The fragment leads from one place to the other, and back to the level that it
started on. -/
def Lays (place next : Place) (f : Fragment) : Prop :=
  ∀ level, layout (place, level) f = some (next, level)

/-- Wherever the fragment stands, it leads to that place. -/
def Leads (next : Place) (f : Fragment) : Prop := ∀ place, Lays place next f

/-- Wherever it stands, the fragment ends on a line, which may end there. -/
abbrev Inline (f : Fragment) : Prop := Leads .solid f

/-- Wherever it stands, the fragment ends with the end of a line. -/
abbrev WholeLines (f : Fragment) : Prop := Leads .ended f

/-- The fragment is nothing, or it ends with the end of a line. -/
def Block (f : Fragment) : Prop := f = [] ∨ WholeLines f

variable {place next last : Place} {f g : Fragment}

theorem lays_nil : Lays place place [] := fun _ => rfl

theorem lays_newline (h : place.newline = some next) : Lays place next newline := by
  intro level
  simp [newline, layout, layoutStep, h]

theorem Lays.append (hf : Lays place next f) (hg : Lays next last g) :
    Lays place last (f ++ g) := by
  intro level
  rw [layout_append, hf level]
  exact hg level

theorem Lays.indented (hf : Lays place next f) : Lays place next (indented f) := by
  intro level
  have hindent : layout (place, level) [.indent] = some (place, level + 1) := rfl
  rw [Fragment.indented, layout_append, layout_append, hindent, Option.bind_some, hf (level + 1)]
  rfl

theorem Leads.followed (hf : Leads next f) (hg : Lays next last g) : Leads last (f ++ g) :=
  fun place => (hf place).append hg

theorem Leads.append (hf : Leads next f) (hg : Leads last g) : Leads last (f ++ g) :=
  hf.followed (hg next)

theorem Leads.line (hf : Inline f) : WholeLines (line f) := hf.followed (lays_newline rfl)

theorem leads_text {text : String} (h : placeOf text = some next) :
    Leads next (Fragment.text text) := by
  obtain ⟨hline, hend⟩ := placeOf_eq_some.mp h
  have hbreak : '\n' ∉ text.toList := fun hmem => absurd (hline _ hmem) (by decide)
  have hne : text ≠ "" := by
    rintro rfl
    cases hend
  intro place level
  rw [text_eq hbreak, if_neg hne]
  simp [layout, layoutStep, h]

theorem inline_text (text : String) (h : placeOf text = some .solid) :
    Inline (Fragment.text text) :=
  leads_text h

/-- Text with a blank behind it, for something on the same line. -/
theorem loose_text (text : String) (h : placeOf text = some .loose) :
    Leads .loose (Fragment.text text) :=
  leads_text h

theorem inline_type (target : ClassName) : Inline (type target) := fun _ _ => rfl

theorem inline_class (target : ClassName) : Inline (classLiteral target) :=
  (inline_type target).append (inline_text ".class" rfl)

theorem inline_literal (value : String) : Inline (literal value) :=
  leads_text (placeOf_stringLiteral value)

/-! ## Lists of fragments -/

theorem lays_moreArguments {fs : List Fragment} (h : ∀ f ∈ fs, Inline f) :
    Lays .solid .solid (moreArguments fs) := by
  induction fs with
  | nil => exact lays_nil
  | cons f rest ih =>
      have hcomma : Leads .ended (Fragment.text "," ++ newline) := (inline_text "," rfl).line
      have hitem := hcomma.append (h f (List.mem_cons_self ..))
      exact (hitem .solid).append (ih fun g hg => h g (List.mem_cons_of_mem _ hg))

theorem lays_arguments {fs : List Fragment} (h : ∀ f ∈ fs, Inline f) :
    Lays .solid .solid (arguments fs) := by
  cases fs with
  | nil => exact lays_nil
  | cons f rest =>
      have hnewline : Lays .solid .ended newline := lays_newline rfl
      have hitem := hnewline.append (h f (List.mem_cons_self ..) .ended)
      have hmore := lays_moreArguments fun g hg => h g (List.mem_cons_of_mem _ hg)
      have heq : arguments (f :: rest)
          = Fragment.indented (Fragment.indented (newline ++ f ++ moreArguments rest)) := by
        simp [arguments, Fragment.indented]
      rw [heq]
      exact (hitem.append hmore).indented.indented

theorem inline_join {fs : List Fragment} (hne : fs ≠ []) (h : ∀ f ∈ fs, Inline f) :
    Inline (join ", " fs) := by
  induction fs with
  | nil => exact absurd rfl hne
  | cons f rest ih =>
      obtain ⟨hf, hrest⟩ := List.forall_mem_cons.mp h
      cases rest with
      | nil => exact hf
      | cons g more =>
          exact (hf.append (loose_text ", " rfl)).append (ih (List.cons_ne_nil g more) hrest)

theorem lays_join {fs : List Fragment} (h : ∀ f ∈ fs, Inline f) :
    Lays .solid .solid (join ", " fs) := by
  by_cases hne : fs = []
  · rw [hne]
    exact lays_nil
  · exact inline_join hne h .solid

theorem Block.lays (h : Block f) : Lays .ended .ended f := by
  rcases h with rfl | h
  · exact lays_nil
  · exact h .ended

theorem Block.before (hf : Block f) (hg : WholeLines g) : WholeLines (f ++ g) := by
  rcases hf with rfl | hf
  · exact hg
  · exact hf.append hg

theorem Block.append (hf : Block f) (hg : Block g) : Block (f ++ g) := by
  rcases hf with rfl | hf
  · exact hg
  · exact .inr (hf.followed hg.lays)

theorem block_concat {fs : List Fragment} (h : ∀ f ∈ fs, Block f) : Block (concat fs) := by
  induction fs with
  | nil => exact .inl rfl
  | cons f rest ih =>
      exact (h f (List.mem_cons_self ..)).append (ih fun g hg => h g (List.mem_cons_of_mem _ hg))

theorem block_flatMap {α : Type} {emit : α → Fragment} {items : List α}
    (h : ∀ item ∈ items, Block (emit item)) : Block (items.flatMap emit) := by
  rw [List.flatMap_def]
  exact block_concat (List.forall_mem_map.mpr h)

theorem wholeLines_separate {fs : List Fragment} (hne : fs ≠ []) (h : ∀ f ∈ fs, WholeLines f) :
    WholeLines (joinBlocks.separate fs) := by
  induction fs with
  | nil => exact absurd rfl hne
  | cons f rest ih =>
      obtain ⟨hf, hrest⟩ := List.forall_mem_cons.mp h
      cases rest with
      | nil => exact hf
      | cons g more =>
          -- The next block starts with a line that is not empty.
          have hbreak : Leads .blank (f ++ newline) := hf.followed (lays_newline rfl)
          exact hbreak.append (ih (List.cons_ne_nil g more) hrest)

/-- Blocks that are nothing leave no empty line behind. -/
theorem block_joinBlocks {fs : List Fragment} (h : ∀ f ∈ fs, Block f) : Block (joinBlocks fs) := by
  have hkept : ∀ f ∈ fs.filter fun f => !f.isEmpty, WholeLines f := by
    intro f hf
    obtain ⟨hmem, hne⟩ := List.mem_filter.mp hf
    exact (h f hmem).resolve_left (by simpa using hne)
  by_cases hne : (fs.filter fun f => !f.isEmpty) = []
  · left
    rw [joinBlocks, hne]
    rfl
  · exact .inr (wholeLines_separate hne hkept)

/-! ## Comments -/

theorem endOf_escapeBackslashes {text : List Char} (h : endOf text = some .solid) :
    endOf (escapeBackslashes text) = some .solid := by
  obtain ⟨c, hc, hplace⟩ := Option.map_eq_some_iff.mp h
  obtain ⟨before, rfl⟩ := List.getLast?_eq_some_iff.mp hc
  have hlast : endOf (if c = '\\' then ['\\', '\\'] else [c]) = some .solid := by
    split
    · decide
    · simpa [endOf] using hplace
  have hsplit : escapeBackslashes (before ++ [c])
      = escapeBackslashes before ++ if c = '\\' then ['\\', '\\'] else [c] := by
    simp [escapeBackslashes]
  rw [hsplit]
  exact endOf_append _ hlast

/-- A line of a comment, be it empty or not. -/
theorem wholeLines_lineComment {text : List Char} (h : ∀ c ∈ text, isTerminator c = false) :
    WholeLines (lineComment text) := by
  refine Leads.line (inline_text _ ?_)
  split
  · decide
  · next hne =>
      have hdropped : Text.dropEnd text ≠ [] := fun hnil => hne (by rw [hnil]; rfl)
      refine placeOf_append (by decide) (placeOf_eq_some.mpr ⟨fun c hc => ?_, ?_⟩)
      · rw [String.toList_ofList, Lexical.mem_escapeBackslashes] at hc
        exact h c (Text.mem_of_mem_dropEnd hc)
      · rw [String.toList_ofList]
        exact endOf_escapeBackslashes (endOf_dropEnd hdropped)

theorem block_lineComments (text : String) : Block (lineComments text) := by
  unfold lineComments
  split
  · exact .inl rfl
  · exact block_flatMap fun line hline =>
      .inr (wholeLines_lineComment (isTerminator_of_mem_commentLines hline))

end Fragment

/-! ## Files -/

namespace CompilationUnit

open Fragment (WholeLines)

/-- A keyword, a path and a semicolon. -/
theorem readAll_clause {keyword path : String} (hkeyword : IsLine keyword) (hpath : IsPath path)
    (place : Place) : place.readAll (keyword ++ path ++ ";").toList = some .solid := by
  have hline : IsLine (keyword ++ path) :=
    hkeyword.append (placeOf_eq_some.mp (placeOf_path hpath)).1
  exact readAll_of_placeOf (placeOf_append hline rfl)

/-- The empty line behind the package clause is behind a line that is not empty. -/
theorem readAll_packageClause {package : String} (h : IsPath package) :
    Place.readAll .blank (packageClause package).toList = some .blank := by
  rw [packageClause, if_neg h.ne_empty]
  have hparts : "package " ++ package ++ ";\n\n" = "package " ++ package ++ ";" ++ "\n\n" := by
    simp [String.append_assoc]
  rw [hparts, String.toList_append]
  exact Place.readAll_append_of (readAll_clause (by decide) h .blank) rfl

theorem readAll_imports {imports : List String} (hne : imports ≠ [])
    (h : ∀ target ∈ imports, IsPath target) (place : Place) :
    place.readAll (String.join (imports.map fun target =>
      "import " ++ target ++ ";\n")).toList = some .ended := by
  induction imports generalizing place with
  | nil => exact absurd rfl hne
  | cons target rest ih =>
      obtain ⟨htarget, hrest⟩ := List.forall_mem_cons.mp h
      have hclause : place.readAll ("import " ++ target ++ ";").toList = some .solid :=
        readAll_clause (by decide) htarget place
      have hline : place.readAll ("import " ++ target ++ ";" ++ "\n").toList = some .ended := by
        rw [String.toList_append]
        exact Place.readAll_append_of hclause rfl
      have hjoin : String.join ((target :: rest).map fun target => "import " ++ target ++ ";\n")
          = "import " ++ target ++ ";" ++ "\n"
            ++ String.join (rest.map fun target => "import " ++ target ++ ";\n") := by
        simp [String.append_assoc]
      rw [hjoin, String.toList_append]
      refine Place.readAll_append_of hline ?_
      cases rest with
      | nil => rfl
      | cons other more => exact ih (List.cons_ne_nil other more) hrest .ended

/-- With the empty line behind the imports, or without both, the next line is behind an
empty one. -/
theorem readAll_importClauses {imports : List String} (h : ∀ target ∈ imports, IsPath target) :
    Place.readAll .blank (importClauses imports).toList = some .blank := by
  unfold importClauses
  split
  · rfl
  · next hne =>
      rw [String.toList_append]
      exact Place.readAll_append_of (readAll_imports hne h .blank) rfl

/-- A file whose body has a good layout is tidy, however it is indented. -/
theorem tidy_render {file : CompilationUnit} {outline : Outline} (hpackage : IsPath file.package)
    (hreads : file.body.Reads .sealed outline) (hbody : WholeLines file.body) {unit : String}
    (hunit : ∀ c ∈ unit.toList, c = ' ' ∨ c = '\t') : Text.Tidy (file.render unit) := by
  have hspell : ∀ c : ClassName, c.WellFormed → IsPath (file.importTable.nameOf c) := fun c hc =>
    ImportTable.isPath_nameOf _ hc
  have hwf : ∀ c ∈ file.body.types, c.WellFormed := by
    rw [hreads.types]
    exact hreads.wellFormed
  have hsource := Fragment.readAll_source ⟨unit, _, hunit, hspell⟩ hwf (hbody .blank 0)
  have hheader := Place.readAll_append_of (readAll_packageClause hpackage)
    (readAll_importClauses (isPath_importTable hreads))
  have hwhole := Place.readAll_append_of hheader hsource
  rw [Fragment.source, ← String.toList_append, ← String.toList_append] at hwhole
  obtain ⟨before, c, hlast, -⟩ := Text.break_of_readAll hwhole
  have hclosed : file.render unit = packageClause file.package
      ++ importClauses file.importTable.imports
      ++ Fragment.renderFrom unit file.importTable.nameOf 0 true file.body := by
    have hbreak : (before ++ [c, '\n']).getLast? = some '\n' := by simp
    rw [← hlast] at hbreak
    exact if_pos hbreak
  rw [hclosed]
  exact Text.tidy_of_readAll hwhole

end CompilationUnit

end ModuleContainers.Java
