import ModuleContainers.Proofs.Java.Layout

/-!
# Indentation

A fragment is balanced if it leaves every level that it enters and no other one
(`Balanced`). The level of a rendering never goes below zero, so a fragment that left
too many levels would be rendered all the same, only wrongly; balanced fragments never
get there (`Balanced.level_pos`). Lists of balanced fragments are balanced, however they
are put together.

Indentation is written with the first text of a line. So a fragment that stands one
level deeper has one more unit in front of each line with something on it, and its empty
lines stay empty (`render_indented`). The invariant behind that is about a rendering from
anywhere in a line: the line that has been begun keeps its indentation, and only those
behind it get the unit (`shiftLines`).
-/

namespace ModuleContainers.Java.Fragment

open Text (Place)

variable {f g : Fragment} {part : Part} {level : Nat}

/-! ## Balance -/

/-- In front of no part more levels were left than entered, and all are left in the end. -/
structure Balanced (f : Fragment) : Prop where
  within : ∀ before, before <+: f → before.count .unindent ≤ before.count .indent
  closed : f.count .unindent = f.count .indent

theorem balanced_of_plain (hindent : .indent ∉ f) (hunindent : .unindent ∉ f) : Balanced f where
  within before h := by
    rw [List.count_eq_zero.mpr fun hmem => hunindent (h.subset hmem)]
    exact Nat.zero_le _
  closed := by rw [List.count_eq_zero.mpr hunindent, List.count_eq_zero.mpr hindent]

theorem balanced_nil : Balanced [] := balanced_of_plain (by simp) (by simp)

theorem Balanced.append (hf : Balanced f) (hg : Balanced g) : Balanced (f ++ g) where
  within before h := by
    rcases List.prefix_or_prefix_of_prefix h (List.prefix_append f g) with hlead | ⟨rest, rfl⟩
    · exact hf.within before hlead
    · have hrest := hg.within rest ((List.prefix_append_right_inj f).mp h)
      rw [List.count_append, List.count_append, hf.closed]
      exact Nat.add_le_add_left hrest _
  closed := by rw [List.count_append, List.count_append, hf.closed, hg.closed]

theorem Balanced.indented (h : Balanced f) : Balanced (indented f) where
  within before hlead := by
    rcases List.prefix_concat_iff.mp hlead with rfl | hlead
    · simp [h.closed]
    · rcases List.prefix_cons_iff.mp hlead with rfl | ⟨rest, rfl, hrest⟩
      · simp
      · have hwithin := h.within rest hrest
        simp only [List.count_cons, beq_iff_eq, reduceCtorEq, if_false, if_true]
        omega
  closed := by simp [Fragment.indented, h.closed]

theorem balanced_text (text : String) : Balanced (Fragment.text text) := by
  have hplain : ∀ lines : List String,
      .indent ∉ ofLines lines ∧ .unindent ∉ ofLines lines := by
    intro lines
    fun_induction ofLines lines <;> simp_all
  exact balanced_of_plain (hplain _).1 (hplain _).2

theorem balanced_newline : Balanced newline := balanced_of_plain (by decide) (by decide)

theorem balanced_moreArguments {fs : List Fragment} (h : ∀ f ∈ fs, Balanced f) :
    Balanced (moreArguments fs) := by
  induction fs with
  | nil => exact balanced_nil
  | cons f rest ih =>
      obtain ⟨hf, hrest⟩ := List.forall_mem_cons.mp h
      exact (((balanced_text ",").append balanced_newline).append hf).append (ih hrest)

theorem balanced_arguments {fs : List Fragment} (h : ∀ f ∈ fs, Balanced f) :
    Balanced (arguments fs) := by
  cases fs with
  | nil => exact balanced_nil
  | cons f rest =>
      obtain ⟨hf, hrest⟩ := List.forall_mem_cons.mp h
      have hitems := (balanced_newline.append hf).append (balanced_moreArguments hrest)
      have heq : arguments (f :: rest)
          = Fragment.indented (Fragment.indented (newline ++ f ++ moreArguments rest)) := by
        simp [arguments, Fragment.indented]
      rw [heq]
      exact hitems.indented.indented

theorem balanced_join (separator : String) {fs : List Fragment} (h : ∀ f ∈ fs, Balanced f) :
    Balanced (join separator fs) := by
  fun_induction join separator fs with
  | case1 => exact balanced_nil
  | case2 f => exact h f (List.mem_singleton_self f)
  | case3 f rest hmore ih =>
      obtain ⟨hf, hrest⟩ := List.forall_mem_cons.mp h
      exact (hf.append (balanced_text separator)).append (ih hrest)

theorem balanced_joinBlocks {fs : List Fragment} (h : ∀ f ∈ fs, Balanced f) :
    Balanced (joinBlocks fs) := by
  have hseparate : ∀ {blocks : List Fragment}, (∀ f ∈ blocks, Balanced f) →
      Balanced (joinBlocks.separate blocks) := by
    intro blocks hblocks
    fun_induction joinBlocks.separate blocks with
    | case1 => exact balanced_nil
    | case2 f => exact hblocks f (List.mem_singleton_self f)
    | case3 f rest hmore ih =>
        obtain ⟨hf, hrest⟩ := List.forall_mem_cons.mp hblocks
        exact (hf.append balanced_newline).append (ih hrest)
  exact hseparate fun f hf => h f (List.mem_of_mem_filter hf)

/-! ## The level of a rendering -/

/-- The level behind a part, where a fragment is rendered. -/
def nextLevel (level : Nat) : Part → Nat
  | .indent => level + 1
  | .unindent => level - 1
  | .text _ | .type _ | .newline => level

/-- Whether nothing stands on the line behind a part. -/
def nextFresh (fresh : Bool) : Part → Bool
  | .newline => true
  | .text _ | .type _ => false
  | .indent | .unindent => fresh

def levelBehind (level : Nat) (f : Fragment) : Nat := f.foldl nextLevel level

def freshBehind (fresh : Bool) (f : Fragment) : Bool := f.foldl nextFresh fresh

theorem renderFrom_append (unit : String) (spell : ClassName → String) (level : Nat)
    (fresh : Bool) (f g : Fragment) :
    renderFrom unit spell level fresh (f ++ g)
      = renderFrom unit spell level fresh f
        ++ renderFrom unit spell (levelBehind level f) (freshBehind fresh f) g := by
  induction f generalizing level fresh with
  | nil => simp [renderFrom, levelBehind, freshBehind]
  | cons part rest ih =>
      cases part <;>
        simp [renderFrom, ih, String.append_assoc, levelBehind, freshBehind, nextLevel, nextFresh]

/-- From the level on, no level is left that is not there. -/
def Grounded (level : Nat) (f : Fragment) : Prop :=
  ∀ before, before <+: f → before.count .unindent ≤ level + before.count .indent

theorem Balanced.grounded (h : Balanced f) (level : Nat) : Grounded level f :=
  fun before hlead => (h.within before hlead).trans (Nat.le_add_left ..)

theorem Grounded.of_prefix (h : Grounded level g) (hf : f <+: g) : Grounded level f :=
  fun before hlead => h before (hlead.trans hf)

theorem nextLevel_add (h : part = .unindent → 0 < level) :
    nextLevel level part + [part].count .unindent = level + [part].count .indent := by
  cases part with
  | unindent =>
      have hpos := h rfl
      simpa [nextLevel] using Nat.sub_add_cancel hpos
  | _ => simp [nextLevel]

theorem Grounded.pos (h : Grounded level (.unindent :: f)) : 0 < level := by
  have hfirst := h [.unindent] (by simp)
  simpa [Nat.succ_le_iff] using hfirst

theorem Grounded.step (h : Grounded level (part :: f)) :
    nextLevel level part + [part].count .unindent = level + [part].count .indent := by
  refine nextLevel_add ?_
  rintro rfl
  exact h.pos

theorem Grounded.rest (h : Grounded level (part :: f)) : Grounded (nextLevel level part) f := by
  intro before hlead
  have hstep := h.step
  have hwhole := h ([part] ++ before) (List.cons_prefix_cons.mpr ⟨rfl, hlead⟩)
  rw [List.count_append, List.count_append] at hwhole
  omega

/-- The level counts what has been entered and not been left. -/
theorem Grounded.levelBehind_add (h : Grounded level f) :
    levelBehind level f + f.count .unindent = level + f.count .indent := by
  induction f generalizing level with
  | nil => rfl
  | cons part rest ih =>
      have hstep := h.step
      have hrest := ih h.rest
      rw [levelBehind, List.foldl_cons, ← levelBehind, ← List.singleton_append,
        List.count_append, List.count_append]
      omega

/-- A level that is left has been entered. -/
theorem Balanced.level_pos (h : Balanced f) {before after : Fragment}
    (hf : f = before ++ .unindent :: after) : 0 < levelBehind 0 before := by
  have hlead : before ++ [.unindent] <+: f := ⟨after, by rw [hf]; simp⟩
  have hgrounded := h.grounded 0
  have hbefore := hgrounded.of_prefix ((List.prefix_append ..).trans hlead)
  have hlevel := hbefore.levelBehind_add
  have hwithin : before.count .unindent + 1 ≤ before.count .indent := by
    simpa using h.within _ hlead
  omega

/-- The layout has the same levels as the rendering, and none that is left too often. -/
theorem level_of_layoutStep {place next : Place} {level' : Nat}
    (h : layoutStep (place, level) part = some (next, level')) :
    level' + [part].count .unindent = level + [part].count .indent := by
  have hlevel : level' = nextLevel level part ∧ (part = .unindent → 0 < level) := by
    unfold layoutStep at h
    split at h <;> simp_all [nextLevel]
  rw [hlevel.1, nextLevel_add hlevel.2]

theorem level_of_layout {place next : Place} {level' : Nat}
    (h : layout (place, level) f = some (next, level')) :
    level' + f.count .unindent = level + f.count .indent := by
  induction f generalizing place level with
  | nil =>
      obtain ⟨-, rfl⟩ := Prod.mk.inj (Option.some.inj h)
      rfl
  | cons part rest ih =>
      obtain ⟨⟨middle, between⟩, hstep, hrest⟩ := Option.bind_eq_some_iff.mp h
      have hfirst := level_of_layoutStep hstep
      have hothers := ih hrest
      rw [← List.singleton_append, List.count_append, List.count_append]
      omega

/-- A fragment with a good layout that ends on its first level is balanced. -/
theorem balanced_of_layout {place next : Place} (h : layout (place, 0) f = some (next, 0)) :
    Balanced f where
  within before hlead := by
    obtain ⟨after, rfl⟩ := hlead
    rw [layout_append] at h
    obtain ⟨⟨middle, level⟩, hbefore, -⟩ := Option.bind_eq_some_iff.mp h
    have hlevel := level_of_layout hbefore
    omega
  closed := by
    have hlevel := level_of_layout h
    omega

/-! ## One level deeper -/

def indentLine (unit line : String) : String := if line = "" then "" else unit ++ line

/-- The text with one more unit in front of each line that is not empty. -/
def indentLines (unit source : String) : String :=
  String.intercalate "\n" ((Text.splitOn '\n' source).map (indentLine unit))

/-- The lines with one more unit, except for the first one if it has been begun. -/
def shiftLines (unit : String) (fresh : Bool) : List String → List String
  | [] => []
  | first :: more => (if fresh then indentLine unit first else first) :: more.map (indentLine unit)

theorem shiftLines_fresh (unit : String) (lines : List String) :
    shiftLines unit true lines = lines.map (indentLine unit) := by
  cases lines <;> rfl

theorem splitOn_break (rest : String) :
    Text.splitOn '\n' ("\n" ++ rest) = "" :: Text.splitOn '\n' rest := by
  simp [Text.splitOn, List.splitOn_cons_eq_if_modifyHead]

/-- A text that shows: a part of a line, and not an empty one. -/
structure Shows (text : String) : Prop where
  nonempty : text ≠ ""
  line : '\n' ∉ text.toList

theorem break_not_mem_padding {unit : String} (h : '\n' ∉ unit.toList) (level : Nat) :
    '\n' ∉ (padding unit level).toList := by
  induction level with
  | zero => simp [padding]
  | succ level ih => simp [padding, h, ih]

/-- Text goes in front of the first line of what is behind it, and on a new line the
indentation goes in front of the text. -/
theorem splitOn_begun {unit text : String} (hunit : '\n' ∉ unit.toList) (htext : Shows text)
    (level : Nat) (fresh : Bool) (rest : String) :
    Text.splitOn '\n' ((if fresh then padding unit level else "") ++ text ++ rest)
      = (Text.splitOn '\n' rest).modifyHead
        (((if fresh then padding unit level else "") ++ text) ++ ·) := by
  refine Text.splitOn_append_of_not_mem ?_ rest
  have hpadding := break_not_mem_padding hunit level
  cases fresh <;> simp [hpadding, htext.line]

theorem shiftLines_begun {unit text : String} (hunit : '\n' ∉ unit.toList) (htext : Shows text)
    (level : Nat) (fresh : Bool) {deeper rest : String}
    (h : Text.splitOn '\n' deeper = shiftLines unit false (Text.splitOn '\n' rest)) :
    Text.splitOn '\n' ((if fresh then padding unit (level + 1) else "") ++ text ++ deeper)
      = shiftLines unit fresh
        (Text.splitOn '\n' ((if fresh then padding unit level else "") ++ text ++ rest)) := by
  rw [splitOn_begun hunit htext, splitOn_begun hunit htext, h]
  cases hlines : Text.splitOn '\n' rest with
  | nil => rfl
  | cons first more =>
      cases fresh <;>
        simp [shiftLines, indentLine, padding, htext.nonempty, String.append_assoc]

variable {unit : String} {spell : ClassName → String}

/-- One level deeper, each line that is begun has one more unit. -/
theorem splitOn_renderFrom_succ (hunit : '\n' ∉ unit.toList)
    (htext : ∀ text, .text text ∈ f → Shows text)
    (hspell : ∀ target, .type target ∈ f → Shows (spell target)) (hf : Grounded level f)
    (fresh : Bool) :
    Text.splitOn '\n' (renderFrom unit spell (level + 1) fresh f)
      = shiftLines unit fresh (Text.splitOn '\n' (renderFrom unit spell level fresh f)) := by
  induction f generalizing level fresh with
  | nil => cases fresh <;> rfl
  | cons part rest ih =>
      have hgrounded := hf.rest
      have hrest := fun level => @ih level
        (fun text hmem => htext text (List.mem_cons_of_mem _ hmem))
        (fun target hmem => hspell target (List.mem_cons_of_mem _ hmem))
      cases part with
      | text text =>
          exact shiftLines_begun hunit (htext text (List.mem_cons_self ..)) level fresh
            (hrest level hgrounded false)
      | type target =>
          exact shiftLines_begun hunit (hspell target (List.mem_cons_self ..)) level fresh
            (hrest level hgrounded false)
      | newline =>
          rw [renderFrom, renderFrom, splitOn_break, splitOn_break, hrest level hgrounded true,
            shiftLines_fresh]
          cases fresh <;> rfl
      | indent => exact hrest (level + 1) hgrounded fresh
      | unindent =>
          obtain ⟨level, rfl⟩ := Nat.exists_eq_add_one.mpr hf.pos
          exact hrest level hgrounded fresh

/-- One level deeper, a fragment is rendered with one more unit in front of each line that
is not empty. -/
theorem render_indented (hunit : '\n' ∉ unit.toList)
    (htext : ∀ text, .text text ∈ f → Shows text)
    (hspell : ∀ target, .type target ∈ f → Shows (spell target)) (hf : Balanced f) :
    (indented f).render unit spell = indentLines unit (f.render unit spell) := by
  have hdeeper : (indented f).render unit spell = renderFrom unit spell 1 true f := by
    rw [render, Fragment.indented, List.append_assoc, List.singleton_append, renderFrom,
      renderFrom_append]
    simp [renderFrom]
  have hlines := splitOn_renderFrom_succ hunit htext hspell (hf.grounded 0) true
  rw [shiftLines_fresh] at hlines
  rw [hdeeper, indentLines, render, ← hlines]
  exact (Text.intercalate_splitOn rfl _).symm

/-- The lines are told apart before they are indented, so the empty one stays empty. -/
example : indentLines "  " "call(\n\ta);\n\nend" = "  call(\n  \ta);\n\n  end" := by
  decide +kernel

end ModuleContainers.Java.Fragment
