import ModuleContainers.Container.Javadoc
import ModuleContainers.Proofs.Java.Comment

/-!
# The comment of a class has no tokens

Every line of the comment leaves the comment open, whatever stands on it, so the comment
goes to the mark that the emitter puts behind it (`reads_javadoc`).

Two things could end it early: the end mark in a text, which `escapeCommentEnd` breaks up,
and an escape that the compiler translates into one, which `escapeBackslashes` prevents.
Line terminators are no danger to a comment of this kind, but a line is emitted as one line
only because `commentLines` has split at all of them.
-/

namespace ModuleContainers.Container

open ModuleContainers.Java (Fragment Rendering commentLines escapeBackslashes)
open ModuleContainers.Java.Fragment (padding source source_line)
open ModuleContainers.Lexical (StaysInComment isTerminator)
open ModuleContainers.Metadata (Module)

/-- The escape brings in no character but those of its entity. -/
theorem mem_escapeCommentEnd {text : List Char} {c : Char} (h : c ∈ escapeCommentEnd text) :
    c ∈ text ∨ c ∈ "*&#47;".toList := by
  fun_induction escapeCommentEnd text with
  | case1 rest ih =>
      rcases List.mem_append.mp h with hmark | hrest
      · exact .inr hmark
      · exact (ih hrest).imp_left fun hmem => by simp [hmem]
  | case2 first rest hpair ih =>
      rcases List.mem_cons.mp h with rfl | hrest
      · exact .inl (List.mem_cons_self ..)
      · exact (ih hrest).imp_left (List.mem_cons_of_mem _)
  | case3 => cases h

/-- The source of a line of the comment. -/
def javadocSource (line : List Char) : String :=
  let text := escapeCommentEnd (escapeBackslashes (Text.dropEnd line))
  if text = [] then " *" else " * " ++ String.ofList text

theorem javadocLine_eq (line : List Char) :
    javadocLine line = Fragment.line (Fragment.text (javadocSource line)) := rfl

/-- A star, or a star and a text whose escapes are made. -/
theorem javadocSource_cases (line : List Char) :
    (javadocSource line).toList = [' ', '*']
      ∨ (javadocSource line).toList
        = [' ', '*', ' '] ++ escapeCommentEnd (escapeBackslashes (Text.dropEnd line)) := by
  by_cases hempty : escapeCommentEnd (escapeBackslashes (Text.dropEnd line)) = []
  · exact .inl (by simp [javadocSource, hempty])
  · exact .inr (by simp [javadocSource, hempty])

/-- The two facts that make a text a line of its own (`source_line`). -/
theorem javadocSource_line {line : List Char} (h : ∀ c ∈ line, isTerminator c = false) :
    '\n' ∉ (javadocSource line).toList ∧ javadocSource line ≠ "" := by
  constructor
  · rcases javadocSource_cases line with hsource | hsource
    · rw [hsource]
      decide
    · rw [hsource, List.mem_append]
      rintro (hmark | hmem)
      · revert hmark; decide
      · rcases mem_escapeCommentEnd hmem with hmem | hmark
        · rw [Lexical.mem_escapeBackslashes] at hmem
          cases h _ (Text.mem_of_mem_dropEnd hmem)
        · revert hmark; decide
  · intro hempty
    have hnone := javadocSource_cases line
    rw [hempty] at hnone
    -- The star is there even when the text is not.
    rcases hnone with hnone | hnone <;> cases hnone

/-- A line of the comment, on whatever level it stands. -/
theorem source_javadocLine {line : List Char} (h : ∀ c ∈ line, isTerminator c = false)
    (rendering : Rendering) (level : Nat) :
    ∃ body, StaysInComment body ∧ ∀ rest : Fragment,
      source rendering level true (javadocLine line ++ rest)
        = body ++ source rendering level true rest := by
  obtain ⟨hline, hne⟩ := javadocSource_line h
  have hblank := Lexical.staysInComment_blanks (rendering.padding_blank level)
  have hbody : StaysInComment ((javadocSource line).toList ++ ['\n']) := by
    rcases javadocSource_cases line with hsource | hsource
    · rw [hsource]
      exact Lexical.staysInComment_emptyLine
    · rw [hsource]
      exact Lexical.staysInComment_line (Text.dropEnd line)
  refine ⟨_, hblank.append hbody, fun rest => ?_⟩
  rw [javadocLine_eq, source_line hline hne]
  simp

/-- Lines that leave the comment open do so together; each starts afresh, so the level is the
same for all of them. -/
theorem source_javadocLines {lines : List (List Char)}
    (h : ∀ line ∈ lines, ∀ c ∈ line, isTerminator c = false) (rendering : Rendering) (level : Nat) :
    ∃ body, StaysInComment body ∧ ∀ rest : Fragment,
      source rendering level true (lines.flatMap javadocLine ++ rest)
        = body ++ source rendering level true rest := by
  induction lines with
  | nil => exact ⟨[], rfl, fun rest => rfl⟩
  | cons line lines ih =>
      obtain ⟨first, hfirst, hline⟩ :=
        source_javadocLine (h line (List.mem_cons_self ..)) rendering level
      obtain ⟨more, hmore, hlines⟩ := ih fun other ho => h other (List.mem_cons_of_mem _ ho)
      refine ⟨first ++ more, hfirst.append hmore, fun rest => ?_⟩
      rw [List.flatMap_cons, List.append_assoc, hline, hlines, List.append_assoc]

/-- Comments refer to no classes, so they import none. -/
theorem types_javadocLines (lines : List (List Char)) :
    Fragment.types (lines.flatMap javadocLine) = [] := by
  induction lines with
  | nil => rfl
  | cons line lines ih =>
      rw [List.flatMap_cons, Fragment.types_append, ih, List.append_nil]
      rw [javadocLine, Fragment.line, Fragment.types_append, Fragment.types_text]
      rfl

/-- No line of the comment has a line terminator, wherever its text comes from. -/
theorem isTerminator_of_mem_javadocTexts {banner : String} {module : Module} {line : List Char}
    (h : line ∈ (javadocTexts banner module).flatMap commentLines) :
    ∀ c ∈ line, isTerminator c = false := by
  obtain ⟨text, -, hmem⟩ := List.mem_flatMap.mp h
  exact Java.isTerminator_of_mem_commentLines hmem

/-- The comment is opened by its first line, kept open by the texts and ended by its last line,
and all of it is one comment to the scanner. -/
theorem reads_javadoc (banner : String) (module : Module) :
    (javadoc banner module).Reads .sealed [] := by
  refine ⟨?_, by simp [Java.Outline.references], fun rendering level fresh => ?_⟩
  · simp only [javadoc, Fragment.types_append, types_javadocLines, Fragment.line,
      Fragment.types_text]
    rfl
  · have hlines : ∀ line ∈ (javadocTexts banner module).flatMap commentLines,
        ∀ c ∈ line, isTerminator c = false := fun _ => isTerminator_of_mem_javadocTexts
    obtain ⟨body, hbody, hsource⟩ := source_javadocLines hlines rendering level
    have hblank := Lexical.staysInComment_blanks (rendering.padding_blank level)
    have hcomment := Lexical.readsAs_blockComment (hbody.append hblank)
    have hend : Fragment.source rendering level true (Fragment.line (Fragment.text " */"))
        = (padding rendering.unit level).toList ++ (" */".toList ++ ['\n']) := by
      have hline : '\n' ∉ " */".toList := by decide
      have hsource := source_line hline (by decide) rendering level true []
      rwa [List.append_nil, Fragment.source_nil, List.append_nil] at hsource
    rw [javadoc, List.append_assoc, source_line (by decide) (by decide), hsource, hend]
    simpa [Java.Outline.tokens] using Fragment.readsAs_begin rendering level fresh hcomment

end ModuleContainers.Container
