import ModuleContainers.Proofs.Java.Fragment

/-!
# Comments have no tokens

A text that is put into comments is cut at its line terminators, so no line of it
has one (`isTerminator_of_mem_commentLines`). A line comment then ends with the
line that it stands on, and its fragment has no tokens at all.
-/

namespace ModuleContainers.Java

open Lexical (isTerminator)
open Fragment (Reads)

theorem isTerminator_of_mem_commentLines {text line : List Char} (h : line ∈ commentLines text) :
    ∀ c ∈ line, isTerminator c = false := by
  obtain ⟨whole, hwhole, hline⟩ := List.mem_flatMap.mp h
  intro c hc
  have hkept : c ∈ whole := by
    have hmem := Text.mem_of_mem_splitOn hline hc
    unfold dropCarriageReturn at hmem
    split at hmem
    · exact List.dropLast_subset _ hmem
    · exact hmem
  have hn : c ≠ '\n' := by
    rintro rfl
    exact Text.not_mem_of_mem_splitOn hwhole hkept
  have hr : c ≠ '\r' := by
    rintro rfl
    exact Text.not_mem_of_mem_splitOn hline hc
  simp [isTerminator, hn, hr]

/-- The blank behind the comment mark counts as a part of the text. -/
theorem lineComment_eq {line : List Char} (h : ∀ c ∈ line, isTerminator c = false) :
    ∃ (text : List Char) (source : String),
      lineComment line = Fragment.line (Fragment.text source)
        ∧ (∀ c ∈ text, isTerminator c = false)
        ∧ source.toList = ['/', '/'] ++ escapeBackslashes text := by
  by_cases hempty : escapeBackslashes (Text.dropEnd line) = []
  · exact ⟨[], "//", by rw [lineComment, if_pos hempty], by simp, by decide⟩
  · refine ⟨' ' :: Text.dropEnd line, _, by rw [lineComment, if_neg hempty], ?_, ?_⟩
    · intro c hc
      rcases List.mem_cons.mp hc with rfl | hc
      · rfl
      · exact h c (Text.mem_of_mem_dropEnd hc)
    · simp [Lexical.escapeBackslashes_cons]

/-- No line terminator gets into a line comment. -/
theorem isTerminator_of_mem_lineComment {text : List Char} {c : Char}
    (h : ∀ c ∈ text, isTerminator c = false)
    (hc : c ∈ ['/', '/'] ++ escapeBackslashes text) : isTerminator c = false := by
  rw [List.mem_append, Lexical.mem_escapeBackslashes] at hc
  rcases hc with hmark | hmem
  · obtain rfl : c = '/' := by simpa using hmark
    rfl
  · exact h c hmem

theorem reads_lineComment {line : List Char} (h : ∀ c ∈ line, isTerminator c = false) :
    (lineComment line).Reads .sealed [] := by
  obtain ⟨text, source, heq, hterminator, hsource⟩ := lineComment_eq h
  have hbreak : '\n' ∉ source.toList := by
    rw [hsource]
    intro hmem
    cases isTerminator_of_mem_lineComment hterminator hmem
  have hne : source ≠ "" := by
    rintro rfl
    cases hsource
  rw [heq]
  refine ⟨?_, by simp [Outline.references], fun rendering level fresh => ?_⟩
  · rw [Fragment.line, Fragment.types_append, Fragment.types_text]
    rfl
  · rw [← List.append_nil (Fragment.line _), Fragment.source_line hbreak hne, Fragment.source_nil,
      List.append_nil, hsource]
    exact Fragment.readsAs_begin _ _ _ (Lexical.readsAs_lineComment hterminator)

theorem reads_lineComments (text : String) : (lineComments text).Reads .sealed [] := by
  unfold lineComments
  split
  · exact Fragment.reads_nil
  · have hall : ∀ {lines : List (List Char)}, (∀ line ∈ lines, ∀ c ∈ line, isTerminator c = false) →
        Reads .sealed (lines.flatMap lineComment) [] := by
      intro lines h
      induction lines with
      | nil => exact Fragment.reads_nil
      | cons line rest ih =>
          have hline := reads_lineComment (h line (List.mem_cons_self ..))
          exact hline.append (ih fun other ho => h other (List.mem_cons_of_mem _ ho))
    exact hall fun line hline => isTerminator_of_mem_commentLines hline

end ModuleContainers.Java
