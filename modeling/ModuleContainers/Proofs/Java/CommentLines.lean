import ModuleContainers.Proofs.Java.Comment

/-!
# The lines of a comment

The language has three line terminators, and a carriage return with a line feed behind
it is one of them, not two. So the lines of a text are found in one pass that takes the
longest terminator at every place (`sourceLines`).

A text is cut for a comment in another way: at line feeds first, where one carriage
return at the end of a piece is dropped, and then at carriage returns. Both ways give
the same lines as long as no carriage return ends the text
(`flatMap_splitOn_eq_sourceLines`). One that does is a blank, and a comment is cut
without the blanks at its end (`commentLines_eq_sourceLines`).
-/

namespace ModuleContainers.Java

open Lexical (isTerminator)

/-! ## One pass -/

/-- The lines of a text, the last of them behind its last line terminator. -/
def sourceLines : List Char → List (List Char)
  | [] => [[]]
  | '\r' :: '\n' :: rest => [] :: sourceLines rest
  | c :: rest =>
      if isTerminator c then [] :: sourceLines rest
      else (sourceLines rest).modifyHead (c :: ·)

/-- The text with a line feed for each of its line terminators. -/
def unifyTerminators : List Char → List Char
  | [] => []
  | '\r' :: '\n' :: rest => '\n' :: unifyTerminators rest
  | c :: rest => (if isTerminator c then '\n' else c) :: unifyTerminators rest

theorem sourceLines_ne_nil (text : List Char) : sourceLines text ≠ [] := by
  fun_induction sourceLines text <;> simp_all

/-- Nothing but the spelling of the terminators is lost. -/
theorem intercalate_sourceLines (text : List Char) :
    ['\n'].intercalate (sourceLines text) = unifyTerminators text := by
  fun_induction sourceLines text with
  | case1 => rfl
  | case2 rest ih =>
      rw [List.intercalate_cons_of_ne_nil (sourceLines_ne_nil rest), ih, unifyTerminators]
      rfl
  | case3 c rest hpair hc ih =>
      rw [List.intercalate_cons_of_ne_nil (sourceLines_ne_nil rest), ih,
        unifyTerminators.eq_3 _ _ hpair, if_pos hc]
      rfl
  | case4 c rest hpair hc ih =>
      obtain ⟨first, more, hrest⟩ := List.exists_cons_of_ne_nil (sourceLines_ne_nil rest)
      rw [hrest] at ih ⊢
      rw [List.modifyHead_cons, List.intercalate_cons_cons_left, ih,
        unifyTerminators.eq_3 _ _ hpair, if_neg hc]

/-! ## Two passes -/

theorem dropCarriageReturn_cons {c : Char} {line : List Char} (h : c ≠ '\r' ∨ line ≠ []) :
    dropCarriageReturn (c :: line) = c :: dropCarriageReturn line := by
  cases line with
  | nil =>
      have hc : c ≠ '\r' := by simpa using h
      simp [dropCarriageReturn, hc]
  | cons d rest =>
      rw [dropCarriageReturn, dropCarriageReturn, List.getLast?_cons_cons, List.dropLast_cons_cons]
      split <;> rfl

/-- A character that does not separate leads the first piece. -/
theorem exists_splitOn_cons {x c : Char} (rest : List Char) (h : c ≠ x) :
    ∃ first more, rest.splitOn x = first :: more
      ∧ (c :: rest).splitOn x = (c :: first) :: more := by
  obtain ⟨first, more, hrest⟩ := List.exists_cons_of_ne_nil (List.splitOn_ne_nil x rest)
  refine ⟨first, more, hrest, ?_⟩
  rw [List.splitOn_cons_eq_if_modifyHead, if_neg (by simpa using h), hrest]
  rfl

theorem splitOn_cons_self (x : Char) (rest : List Char) :
    (x :: rest).splitOn x = [] :: rest.splitOn x := by
  rw [List.splitOn_cons_eq_if_modifyHead, if_pos (by simp)]

theorem getLast?_rest_ne {x c : Char} {rest : List Char} (h : (c :: rest).getLast? ≠ some x) :
    rest.getLast? ≠ some x := by
  cases rest with
  | nil => simp
  | cons d more => rwa [List.getLast?_cons_cons] at h

theorem flatMap_splitOn_eq_sourceLines {text : List Char} (h : text.getLast? ≠ some '\r') :
    (text.splitOn '\n').flatMap (fun line => (dropCarriageReturn line).splitOn '\r')
      = sourceLines text := by
  fun_induction sourceLines text with
  | case1 => rfl
  | case2 rest ih =>
      -- The carriage return is all of its piece, and it is dropped.
      rw [← ih (getLast?_rest_ne (getLast?_rest_ne h))]
      simp [List.splitOn_cons_eq_if_modifyHead, dropCarriageReturn]
  | case3 c rest hpair hc ih =>
      rw [← ih (getLast?_rest_ne h)]
      by_cases hn : c = '\n'
      · rw [hn, splitOn_cons_self]
        rfl
      · obtain rfl : c = '\r' := by simpa [isTerminator, hn] using hc
        -- Something stands behind it on its piece, so it is kept there and cut at.
        obtain ⟨d, more, rfl⟩ := List.exists_cons_of_ne_nil (l := rest) (by
          rintro rfl
          simp at h)
        have hd : d ≠ '\n' := fun hd => hpair more rfl (by rw [hd])
        obtain ⟨first, others, -, hrest⟩ := exists_splitOn_cons more hd
        rw [List.splitOn_cons_eq_if_modifyHead, if_neg (by decide), hrest, List.modifyHead_cons,
          List.flatMap_cons, dropCarriageReturn_cons (.inr (List.cons_ne_nil d first)),
          splitOn_cons_self]
        rfl
  | case4 c rest hpair hc ih =>
      simp only [isTerminator, Bool.or_eq_true, beq_iff_eq, not_or] at hc
      obtain ⟨first, others, hrest, hwhole⟩ := exists_splitOn_cons rest hc.1
      obtain ⟨head, tail, hpiece, hlead⟩ := exists_splitOn_cons (dropCarriageReturn first) hc.2
      rw [← ih (getLast?_rest_ne h), hwhole, hrest, List.flatMap_cons, List.flatMap_cons,
        dropCarriageReturn_cons (.inl hc.2), hlead, hpiece]
      rfl

/-! ## Comments -/

/-- The last character that is kept is no blank. -/
theorem getLast?_dropEnd_ne {text : List Char} {c : Char} (hc : Text.isBlank c = true) :
    (Text.dropEnd text).getLast? ≠ some c := by
  intro hlast
  have hhead := List.head?_dropWhile_not (p := Text.isBlank) text.reverse
  rw [Text.dropEnd, List.getLast?_reverse] at hlast
  simp [hlast, hc] at hhead

/-- A comment has the lines that the language counts in the text without the blanks at
its end, where a carriage return and a line feed behind it are one terminator. So no
line has a terminator, and the lines with line feeds between them are that text with
its terminators unified. -/
theorem commentLines_eq_sourceLines (text : List Char) :
    commentLines text = sourceLines (Text.dropEnd text)
      ∧ (∀ line ∈ commentLines text, '\r' ∉ line ∧ '\n' ∉ line)
      ∧ ['\n'].intercalate (commentLines text) = unifyTerminators (Text.dropEnd text) := by
  have hlines : commentLines text = sourceLines (Text.dropEnd text) :=
    flatMap_splitOn_eq_sourceLines (getLast?_dropEnd_ne (by decide))
  refine ⟨hlines, fun line hline => ?_, hlines ▸ intercalate_sourceLines _⟩
  have hclean : ∀ c, isTerminator c = true → c ∉ line := fun c hc hmem => by
    rw [isTerminator_of_mem_commentLines hline c hmem] at hc
    cases hc
  exact ⟨hclean _ rfl, hclean _ rfl⟩

/-- A carriage return goes with the line feed behind it, not with the one in front. -/
example : commentLines "a\r\r\nb\n\rc\r".toList = ["a", "", "b", "", "c"].map String.toList := by
  decide

end ModuleContainers.Java
