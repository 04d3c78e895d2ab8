import ModuleContainers.Proofs.Container.Layout
import ModuleContainers.Proofs.Java.Indentation

/-!
# The indentation of container classes

The body of every class that is generated is balanced: its emitters enter one level or
more and leave them in other pieces, and none of them is left too often or not at all
(`indentation_balanced`). Most of that is in the layout of the body already, which has a
good one only if it ends on the level that it starts on.
-/

namespace ModuleContainers.Container

open ModuleContainers.Java (ClassName CompilationUnit Fragment Part)
open ModuleContainers.Java.Fragment (Balanced Shows arguments balanced_arguments balanced_join
  balanced_joinBlocks balanced_newline balanced_nil balanced_of_layout balanced_of_plain
  balanced_text freshBehind indentLines indented join joinBlocks levelBehind renderFrom
  renderFrom_append render_indented)
open ModuleContainers.Metadata (Module)

/-- Where a level is left, the rendering is on one that has been entered. -/
def LeavesEntered (body : Fragment) : Prop :=
  ∀ before after, body = before ++ .unindent :: after →
    ∃ level, levelBehind 0 before = level + 1
      ∧ ∀ (unit : String) (spell : ClassName → String), body.render unit spell
        = before.render unit spell
          ++ renderFrom unit spell (level + 1) (freshBehind true before) (.unindent :: after)

theorem leavesEntered_of_balanced {body : Fragment} (h : Balanced body) : LeavesEntered body := by
  intro before after hbody
  obtain ⟨level, hlevel⟩ := Nat.exists_eq_add_one.mpr (h.level_pos hbody)
  refine ⟨level, hlevel, fun unit spell => ?_⟩
  rw [hbody, Fragment.render, renderFrom_append, hlevel]
  rfl

/-- Every class is balanced, so no rendering of it leaves a level that it is not on. Lists
of fragments are balanced where their items are. One level deeper, a balanced fragment is
rendered with one more unit in front of each line that is not empty. -/
theorem indentation_balanced :
    (∀ (runtime : Runtime ClassName) (banner : String) (module : Module) (file : CompilationUnit),
        Container.unit runtime banner module = .ok file →
        Balanced file.body ∧ LeavesEntered file.body)
      ∧ (∀ fs : List Fragment, (∀ f ∈ fs, Balanced f) →
        Balanced (arguments fs) ∧ (∀ separator, Balanced (join separator fs))
          ∧ Balanced (joinBlocks fs))
      ∧ ∀ (f : Fragment) (unit : String) (spell : ClassName → String), Balanced f →
        (∀ text, .text text ∈ f → Shows text) →
        (∀ target, .type target ∈ f → Shows (spell target)) → '\n' ∉ unit.toList →
        (indented f).render unit spell = indentLines unit (f.render unit spell) := by
  refine ⟨fun runtime banner module file hfile => ?_, fun fs hfs => ?_,
    fun f unit spell hf htext hspell hunit => render_indented hunit htext hspell hf⟩
  · have hbody : Balanced file.body := balanced_of_layout (wholeLines_unit hfile .blank 0)
    exact ⟨hbody, leavesEntered_of_balanced hbody⟩
  · exact ⟨balanced_arguments hfs, fun separator => balanced_join separator hfs,
      balanced_joinBlocks hfs⟩

/-- A call with two arguments, and text behind an empty line. -/
def spacedCall : Fragment :=
  Fragment.text "call(" ++ arguments [Fragment.text "a", Fragment.type (.top "kotlin" "Pair")]
    ++ Fragment.text ");" ++ Fragment.newline ++ Fragment.newline ++ Fragment.text "end"

theorem balanced_spacedCall : Balanced spacedCall := by
  have hpair : Balanced (Fragment.type (.top "kotlin" "Pair")) :=
    balanced_of_plain (by decide) (by decide)
  have hitems : ∀ f ∈ [Fragment.text "a", Fragment.type (.top "kotlin" "Pair")], Balanced f :=
    List.forall_mem_cons.mpr ⟨balanced_text "a", List.forall_mem_singleton.mpr hpair⟩
  have harguments := balanced_arguments hitems
  exact (((((balanced_text _).append harguments).append (balanced_text _)).append
    balanced_newline).append balanced_newline).append (balanced_text _)

theorem indentation_balanced_spacedCall :
    (∃ runtime file, Runtime.standard.resolve = .ok runtime
        ∧ Container.unit runtime "banner" Module.sample = .ok file
        ∧ Balanced file.body ∧ LeavesEntered file.body)
      ∧ (Balanced (arguments [spacedCall, spacedCall])
        ∧ Balanced (join ", " [spacedCall, spacedCall])
        ∧ Balanced (joinBlocks [spacedCall, [], spacedCall]))
      ∧ (indented spacedCall).render "\t" ClassName.nestedPath
        = indentLines "\t" (spacedCall.render "\t" ClassName.nestedPath) := by
  obtain ⟨runtime, hresolve⟩ := Runtime.standard_resolves
  obtain ⟨file, hfile⟩ := unit_succeeds runtime
    (Module.wellNamed_of_validate Module.sample_valid) "banner"
  obtain ⟨hbodies, hlists, hdeeper⟩ := indentation_balanced
  have hcall := balanced_spacedCall
  have hparts : spacedCall = [.text "call(", .indent, .indent, .newline, .text "a", .text ",",
      .newline, .type (.top "kotlin" "Pair"), .unindent, .unindent, .text ");", .newline, .newline,
      .text "end"] := by decide
  refine ⟨⟨runtime, file, hresolve, hfile, hbodies _ _ _ _ hfile⟩, ?_, ?_⟩
  · have hpair := hlists [spacedCall, spacedCall] (by simpa using hcall)
    have hblocks := hlists [spacedCall, [], spacedCall]
      (by simpa using ⟨hcall, balanced_nil, hcall⟩)
    exact ⟨hpair.1, hpair.2.1 ", ", hblocks.2.2⟩
  · refine hdeeper spacedCall "\t" ClassName.nestedPath hcall ?_ ?_ (by decide)
    · intro text htext
      simp only [hparts, List.mem_cons, Part.text.injEq, reduceCtorEq, List.not_mem_nil,
        or_false, false_or] at htext
      rcases htext with rfl | rfl | rfl | rfl | rfl <;> exact ⟨by decide, by decide⟩
    · intro target htarget
      simp only [hparts, List.mem_cons, Part.type.injEq, reduceCtorEq, List.not_mem_nil,
        or_false, false_or] at htarget
      rw [htarget]
      exact ⟨by decide, by decide⟩

end ModuleContainers.Container
