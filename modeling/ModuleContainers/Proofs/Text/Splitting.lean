import Mathlib.Data.List.TakeDrop
import Mathlib.Data.List.TakeWhile
import ModuleContainers.Text.Blank
import ModuleContainers.Text.Splitting

/-!
# Pieces of a text

A piece of a text that was cut at a separator has no separator, and it has no
other characters than the text. The same goes for a text whose blanks at the ends
were dropped.
-/

namespace ModuleContainers.Text

/-! ## All separators -/

theorem mem_intercalate_singleton {α : Type} {x c : α} :
    ∀ {parts : List (List α)}, c ∈ [x].intercalate parts → c = x ∨ ∃ part ∈ parts, c ∈ part
  | [], h => by simp at h
  | [part], h => by simpa using Or.inr h
  | part :: next :: rest, h => by
      rw [List.intercalate_cons_cons, List.append_assoc, List.mem_append, List.mem_append,
        List.mem_singleton] at h
      rcases h with h | h | h
      · exact Or.inr ⟨part, List.mem_cons_self .., h⟩
      · exact Or.inl h
      · obtain heq | ⟨found, hmem, hc⟩ := mem_intercalate_singleton h
        · exact Or.inl heq
        · exact Or.inr ⟨found, List.mem_cons_of_mem _ hmem, hc⟩

theorem mem_of_mem_intercalate {α : Type} {x c : α} {parts : List (List α)} {part : List α}
    (hpart : part ∈ parts) (hc : c ∈ part) : c ∈ [x].intercalate parts := by
  induction parts with
  | nil => cases hpart
  | cons first rest ih =>
      cases rest with
      | nil =>
          obtain rfl := List.mem_singleton.mp hpart
          simpa using hc
      | cons next more =>
          rw [List.intercalate_cons_cons]
          rcases List.mem_cons.mp hpart with rfl | hpart
          · simp [hc]
          · exact List.mem_append_right _ (ih hpart)

/-- By induction on the text. A character goes to the first of the pieces behind it, unless it
is the separator, which starts a new one. -/
theorem not_mem_of_mem_splitOn {α : Type} [BEq α] [LawfulBEq α] {x : α} :
    ∀ {l : List α} {piece : List α}, piece ∈ l.splitOn x → x ∉ piece
  | [], piece, h => by simp_all
  | c :: rest, piece, h => by
      obtain ⟨first, more, hsplit⟩ := List.exists_cons_of_ne_nil (List.splitOn_ne_nil x rest)
      have ih : ∀ {piece}, piece ∈ first :: more → x ∉ piece :=
        fun hmem => not_mem_of_mem_splitOn (hsplit ▸ hmem)
      rw [List.splitOn_cons_eq_if_modifyHead, hsplit] at h
      split at h
      · rcases List.mem_cons.mp h with rfl | h
        · simp
        · exact ih h
      · next hne =>
          rcases List.mem_cons.mp h with rfl | h
          · intro hmem
            rcases List.mem_cons.mp hmem with rfl | hmem
            · simp at hne
            · exact ih (List.mem_cons_self ..) hmem
          · exact ih (List.mem_cons_of_mem _ h)

/-- The pieces put together are the text, so what is in a piece is in the text. -/
theorem mem_of_mem_splitOn {α : Type} [BEq α] [LawfulBEq α] {x c : α} {l piece : List α}
    (hpiece : piece ∈ l.splitOn x) (hc : c ∈ piece) : c ∈ l := by
  have hwhole : [x].intercalate (l.splitOn x) = l := List.intercalate_splitOn x
  rw [← hwhole]
  exact mem_of_mem_intercalate hpiece hc

/-- Every separator adds one piece. -/
theorem length_splitOn_le {α : Type} [BEq α] (x : α) (l : List α) :
    (l.splitOn x).length ≤ l.length + 1 := by
  induction l with
  | nil => simp
  | cons c rest ih =>
      rw [List.splitOn_cons_eq_if_modifyHead]
      split <;> simp <;> omega

/-- Pieces without the separator are not cut any further. -/
theorem flatMap_splitOn_of_not_mem {α : Type} [BEq α] [LawfulBEq α] {x : α} :
    ∀ {pieces : List (List α)}, (∀ piece ∈ pieces, x ∉ piece) →
      pieces.flatMap (List.splitOn x) = pieces
  | [], _ => rfl
  | piece :: rest, h => by
      rw [List.flatMap_cons, List.splitOn_eq_singleton (h piece (List.mem_cons_self ..)),
        flatMap_splitOn_of_not_mem fun p hp => h p (List.mem_cons_of_mem _ hp),
        List.singleton_append]

/-- A text cut at `y`, with every piece cut at `x`, is the text with `y` in place of
`x`, cut at `y`. -/
theorem splitOn_map_replace {α : Type} [BEq α] [LawfulBEq α] (x y : α) (l : List α) :
    (l.map fun c => if c == x then y else c).splitOn y
      = (l.splitOn y).flatMap (List.splitOn x) := by
  induction l with
  | nil => simp
  | cons c rest ih =>
      obtain ⟨first, more, hrest⟩ := List.exists_cons_of_ne_nil (List.splitOn_ne_nil y rest)
      obtain ⟨head, tail, hfirst⟩ := List.exists_cons_of_ne_nil (List.splitOn_ne_nil x first)
      rw [hrest, List.flatMap_cons, hfirst] at ih
      rw [List.map_cons, List.splitOn_cons_eq_if_modifyHead, List.splitOn_cons_eq_if_modifyHead,
        ih, hrest]
      -- A character that is one of the two separators cuts on both sides; any other goes to the
      -- first piece.
      by_cases hy : c = y
      · simp [hy, hfirst]
      · by_cases hx : c = x
        · simp [hx, hfirst, List.splitOn_cons_eq_if_modifyHead, show ¬ x = y from hx ▸ hy]
        · simp [hx, hy, hfirst, List.splitOn_cons_eq_if_modifyHead]

/-- Pieces without the separator are found again where the text was cut. -/
theorem splitOn_intercalate {separator : Char} {between : String}
    (hbetween : between.toList = [separator]) {parts : List String}
    (hparts : ∀ part ∈ parts, separator ∉ part.toList) (hne : parts ≠ []) :
    splitOn separator (String.intercalate between parts) = parts := by
  have hsplit : (List.intercalate [separator] (parts.map String.toList)).splitOn separator
      = parts.map String.toList :=
    List.splitOn_intercalate separator (by simpa using hparts) (by simpa using hne)
  simp [splitOn, String.toList_intercalate, hbetween, hsplit]

/-- Text without the separator goes to the first piece. -/
theorem splitOn_append_of_not_mem {separator : Char} {a : String} (h : separator ∉ a.toList)
    (b : String) : splitOn separator (a ++ b) = (splitOn separator b).modifyHead (a ++ ·) := by
  have hchars : ∀ {l : List Char}, separator ∉ l → (l ++ b.toList).splitOn separator
      = (b.toList.splitOn separator).modifyHead (l ++ ·) := by
    intro l hl
    induction l with
    | nil => exact (congrFun List.modifyHead_id _).symm
    | cons c rest ih =>
        rw [List.mem_cons, not_or] at hl
        rw [List.cons_append, List.splitOn_cons_eq_if_modifyHead, ih hl.2,
          if_neg (by simpa using Ne.symm hl.1), List.modifyHead_modifyHead]
        rfl
  rw [splitOn, splitOn, String.toList_append, hchars h]
  cases b.toList.splitOn separator with
  | nil => rfl
  | cons first more => simp

/-- Nothing but the separators is lost where a text is cut. -/
theorem intercalate_splitOn {separator : Char} {between : String}
    (hbetween : between.toList = [separator]) (text : String) :
    String.intercalate between (splitOn separator text) = text := by
  rw [← String.toList_inj, String.toList_intercalate, hbetween, splitOn, List.map_map]
  simp [Function.comp_def]

/-! ## The last separator -/

/-- A cut at a separator with none behind it is the last cut. -/
theorem cutLast_append {separator : Char} (before : List Char) {after : List Char}
    (h : separator ∉ after) :
    cutLast separator (before ++ separator :: after) = some (before, after) := by
  have hpos : ∀ c ∈ after.reverse, (c != separator) = true := by
    intro c hc
    rw [bne_iff_ne]
    rintro rfl
    exact h (List.mem_reverse.mp hc)
  have hsplit : (before ++ separator :: after).reverse
      = after.reverse ++ separator :: before.reverse := by simp
  rw [cutLast, hsplit, List.span_eq_takeWhile_dropWhile, List.takeWhile_append_of_pos hpos,
    List.dropWhile_append_of_pos hpos]
  simp

/-- The two parts and what the cut says of them: nothing is lost but the separator, and it is
the last. -/
theorem cutLast_eq_some {separator : Char} {text before after : List Char}
    (h : cutLast separator text = some (before, after)) :
    text = before ++ separator :: after ∧ separator ∉ after := by
  unfold cutLast at h
  rw [List.span_eq_takeWhile_dropWhile] at h
  have hwhole := List.takeWhile_append_dropWhile (p := (· != separator)) (l := text.reverse)
  split at h
  · cases h
  · next last found rest heq =>
      obtain ⟨hlast, hrest⟩ := Prod.mk.inj heq
      obtain ⟨rfl, rfl⟩ := Prod.mk.inj (Option.some.inj h)
      have hfound : found = separator := by
        have hhead := List.head?_dropWhile_not (p := (· != separator)) text.reverse
        rw [hrest] at hhead
        simpa using hhead
      rw [hlast, hrest, hfound] at hwhole
      constructor
      · rw [← List.reverse_reverse text, ← hwhole]
        simp
      · rw [List.mem_reverse, ← hlast]
        intro hmem
        simpa using List.mem_takeWhile_imp hmem

/-- The text behind the last separator is the last piece. -/
theorem splitOn_of_cutLast {separator : Char} {text before after : List Char}
    (h : cutLast separator text = some (before, after)) :
    text.splitOn separator = before.splitOn separator ++ [after] := by
  obtain ⟨hwhole, hafter⟩ := cutLast_eq_some h
  rw [hwhole, List.splitOn_append_cons_self, List.splitOn_eq_singleton hafter]

/-! ## Two ways to cut a list -/

/-- An element that is not in the first part is in the second, and the first part stands before
it. -/
theorem exists_of_append_eq_append_cons {α : Type} {x : α} {l m before after : List α}
    (h : l ++ m = before ++ x :: after) (hl : x ∉ l) :
    ∃ middle, before = l ++ middle ∧ m = middle ++ x :: after := by
  rcases List.append_eq_append_iff.mp h with ⟨middle, hbefore, hm⟩ | ⟨middle, hwhole, hm⟩
  · exact ⟨middle, hbefore, hm⟩
  · cases middle with
    | nil => exact ⟨[], by simpa using hwhole.symm, hm.symm⟩
    | cons first middle =>
        obtain ⟨rfl, -⟩ := List.cons.inj hm
        exact absurd (hwhole ▸ List.mem_append_right _ (List.mem_cons_self ..)) hl

/-- The last of its kind cuts a list in one way only. -/
theorem append_cons_inj_of_last {α : Type} {x : α} {before before' after after' : List α}
    (h : before ++ x :: after = before' ++ x :: after') (hafter : x ∉ after)
    (hafter' : x ∉ after') : before = before' ∧ after = after' := by
  rcases List.append_eq_append_iff.mp h with ⟨middle, rfl, hrest⟩ | ⟨middle, rfl, hrest⟩
  all_goals
    cases middle with
    | nil => exact ⟨by simp, by simpa [eq_comm] using hrest⟩
    | cons first middle =>
        obtain ⟨rfl, rfl⟩ := List.cons.inj hrest
        simp at hafter hafter'

/-! ## Blanks at the ends -/

theorem dropEnds_of_not_blank {text : List Char} (h : ∀ c ∈ text, isBlank c = false) :
    dropEnds text = text := by
  have hdrop : ∀ l : List Char, (∀ c ∈ l, isBlank c = false) → l.dropWhile isBlank = l
    | [], _ => rfl
    | c :: rest, hl => by simp [hl c (List.mem_cons_self ..)]
  have hback := hdrop text.reverse fun c hc => h c (List.mem_reverse.mp hc)
  simp [dropEnds, dropEnd, hdrop text h, hback]

theorem mem_of_mem_dropEnd {text : List Char} {c : Char} (h : c ∈ dropEnd text) : c ∈ text := by
  rw [dropEnd, List.mem_reverse] at h
  exact List.mem_reverse.mp ((List.dropWhile_sublist _).subset h)

/-! ## Digits -/

/-- Numbers are told apart by their digits. -/
theorem repr_injective : Function.Injective Nat.repr := by
  intro m n h
  have hdigits := congrArg (fun text : String => Nat.ofDigitChars 10 text.toList 0) h
  simpa [Nat.repr_eq_ofList_toDigits, Nat.ofDigitChars_toDigits] using hdigits

end ModuleContainers.Text
