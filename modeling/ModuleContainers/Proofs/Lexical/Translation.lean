import Mathlib.Algebra.Group.Nat.Even
import Mathlib.Data.List.Basic
import ModuleContainers.Proofs.Lexical.UnicodeEscape

/-!
# The rule for unicode escapes

The rule that the language gives for unicode escapes looks at a backslash and counts
the backslashes directly before it, where `escapes` only remembers what is pending.
`Translates` is that rule, and `escapes` follows it: a text comes out as another one by
the rule exactly when the stage gives that one (`run_escapes_iff`). So a text comes out
as at most one text.

A text that comes out as it is has no escape anywhere (`settled_of_translates`).
-/

namespace ModuleContainers.Lexical

variable {before text rest out : List Char} {c : Char}

/-! ## The rule -/

/-- The number of backslashes that the text ends with. -/
def backslashesAtEnd (text : List Char) : Nat := (text.reverse.takeWhile (· == '\\')).length

/-- One more character either adds a backslash or ends the row of them. -/
theorem backslashesAtEnd_concat (text : List Char) (c : Char) :
    backslashesAtEnd (text ++ [c]) = if c = '\\' then backslashesAtEnd text + 1 else 0 := by
  by_cases hc : c = '\\' <;> simp [backslashesAtEnd, hc]

/-- An escape starts here: a backslash behind an even number of backslashes, with a `u`
after it. -/
def Live (before text : List Char) : Prop :=
  Even (backslashesAtEnd before) ∧ ['\\', 'u'] <+: text

/-- The code unit that hexadecimal digits stand for, behind others of the given value. -/
def codeUnit? : Nat → List Char → Option Nat
  | code, [] => some code
  | code, digit :: rest => (hexValue digit).bind fun value => codeUnit? (16 * code + value) rest

/-- Behind the text that has been read, the text comes out as another one. -/
inductive Translates : List Char → List Char → List Char → Prop where
  | nil {before : List Char} : Translates before [] []
  | plain {before rest out : List Char} {c : Char} (hlive : ¬ Live before (c :: rest))
      (hrest : Translates (before ++ [c]) rest out) : Translates before (c :: rest) (c :: out)
  /-- There may be more than one `u`, and there are four digits. -/
  | escape {before digits rest out : List Char} {marks code : Nat} {c : Char}
      (heven : Even (backslashesAtEnd before)) (hdigits : digits.length = 4)
      (hcode : codeUnit? 0 digits = some code) (hchar : unitChar code = some c)
      (hrest : Translates (before ++ '\\' :: List.replicate (marks + 1) 'u' ++ digits) rest out) :
      Translates before ('\\' :: List.replicate (marks + 1) 'u' ++ digits ++ rest) (c :: out)

theorem translates_nil : Translates before [] out ↔ out = [] := by
  constructor
  · intro h
    cases h
    rfl
  · rintro rfl
    exact .nil

theorem translates_plain (hlive : ¬ Live before (c :: rest)) :
    Translates before (c :: rest) out ↔
      ∃ more, out = c :: more ∧ Translates (before ++ [c]) rest more := by
  constructor
  · intro h
    cases h with
    | plain _ hrest => exact ⟨_, rfl, hrest⟩
    | escape heven => exact absurd ⟨heven, by simp [List.replicate_succ]⟩ hlive
  · rintro ⟨more, rfl, hrest⟩
    exact .plain hlive hrest

/-- Only hexadecimal digits make a code unit. -/
theorem hexValue_of_codeUnit? {digits : List Char} {code value : Nat}
    (h : codeUnit? code digits = some value) : ∀ digit ∈ digits, hexValue digit ≠ none := by
  induction digits generalizing code with
  | nil => simp
  | cons first rest ih =>
      obtain ⟨digit, hfirst, hrest⟩ := Option.bind_eq_some_iff.mp h
      exact List.forall_mem_cons.mpr ⟨by simp [hfirst], ih hrest⟩

/-- Behind an escape the counting begins anew. -/
theorem backslashesAtEnd_digits {digits : List Char} {value : Nat} (hne : digits ≠ [])
    (h : codeUnit? 0 digits = some value) (before : List Char) :
    backslashesAtEnd (before ++ digits) = 0 := by
  obtain ⟨init, last, rfl⟩ := (List.eq_nil_or_concat' digits).resolve_left hne
  have hlast : last ≠ '\\' := by
    rintro rfl
    exact hexValue_of_codeUnit? h '\\' (by simp) rfl
  rw [← List.append_assoc, backslashesAtEnd_concat, if_neg hlast]

/-! ## The stage follows the rule -/

/-- So many digits come first, the character of their code unit comes out, and then what
the rest comes out as. -/
def ReadsUnit (count code : Nat) (text out : List Char) : Prop :=
  ∃ digits after value d more, text = digits ++ after ∧ digits.length = count
    ∧ codeUnit? code digits = some value ∧ unitChar value = some d
    ∧ escapes.run .settled after = some more ∧ out = d :: more

theorem readsUnit_zero {code : Nat} :
    ReadsUnit 0 code text out ↔ ∃ d more, unitChar code = some d
      ∧ escapes.run .settled text = some more ∧ out = d :: more := by
  constructor
  · rintro ⟨digits, after, value, d, more, rfl, hlength, hcode, hrest⟩
    obtain rfl := List.length_eq_zero_iff.mp hlength
    obtain rfl := Option.some.inj hcode
    exact ⟨d, more, hrest⟩
  · rintro ⟨d, more, hrest⟩
    exact ⟨[], text, code, d, more, rfl, rfl, rfl, hrest⟩

theorem not_readsUnit_nil {count code : Nat} : ¬ ReadsUnit (count + 1) code [] out := by
  rintro ⟨digits, after, value, d, more, htext, hlength, -⟩
  obtain ⟨rfl, -⟩ := List.append_eq_nil_iff.mp htext.symm
  cases hlength

/-- One digit of a unit, in front of those that are still to come. -/
theorem readsUnit_cons {count code : Nat} :
    ReadsUnit (count + 1) code (c :: rest) out ↔
      ∃ value, hexValue c = some value ∧ ReadsUnit count (16 * code + value) rest out := by
  constructor
  · rintro ⟨digits, after, value, d, more, htext, hlength, hcode, hrest⟩
    obtain ⟨digit, digits, rfl⟩ := List.exists_cons_of_length_eq_add_one hlength
    obtain ⟨rfl, rfl⟩ := List.cons.inj htext
    obtain ⟨first, hfirst, hcode⟩ := Option.bind_eq_some_iff.mp hcode
    exact ⟨first, hfirst, digits, after, value, d, more, rfl, by simpa using hlength, hcode, hrest⟩
  · rintro ⟨first, hfirst, digits, after, value, d, more, rfl, hlength, hcode, hrest⟩
    exact ⟨c :: digits, after, value, d, more, rfl, by simp [hlength],
      Option.bind_eq_some_iff.mpr ⟨first, hfirst, hcode⟩, hrest⟩

/-- One step of the stage, inside an escape. -/
theorem run_escapes_digits (count code : Nat) (c : Char) (rest : List Char) :
    escapes.run (.digits count code) (c :: rest)
      = (readDigit count code c).bind fun first =>
        (escapes.run first.2 rest).map (first.1 ++ ·) := rfl

theorem readDigit_eq_some {count code remaining : Nat} (hcount : count + remaining = 3) :
    ((readDigit count code c).bind fun first =>
        (escapes.run first.2 rest).map (first.1 ++ ·)) = some out ↔
      ReadsUnit (remaining + 1) code (c :: rest) out := by
  induction remaining generalizing count code c rest out with
  | zero =>
      have hlast : count = 3 := hcount
      simp only [readsUnit_cons, readDigit, hlast, if_true]
      rcases hexValue c with _ | value
      · simp
      · simp only [Option.bind_some, Option.some.injEq, exists_eq_left', readsUnit_zero]
        rcases unitChar (16 * code + value) with _ | d
        · simp
        · simp [eq_comm]
  | succ remaining ih =>
      have hmore : count ≠ 3 := by omega
      simp only [readsUnit_cons, readDigit, hmore, if_false]
      rcases hexValue c with _ | value
      · simp
      · simp only [Option.bind_some, List.nil_append, Option.map_id', Option.some.injEq,
          exists_eq_left']
        cases rest with
        | nil =>
            have hnone : escapes.run (.digits (count + 1) (16 * code + value)) [] = none := rfl
            rw [hnone]
            exact iff_of_false (by simp) not_readsUnit_nil
        | cons next more =>
            rw [run_escapes_digits]
            exact ih (by omega)

/-- Behind the backslash and the first `u` of an escape. -/
theorem run_escapes_marker :
    escapes.run .marker text = some out ↔
      ∃ marks after, text = List.replicate marks 'u' ++ after ∧ ReadsUnit 4 0 after out := by
  induction text with
  | nil =>
      have hrun : escapes.run .marker [] = none := rfl
      rw [hrun]
      simp only [reduceCtorEq, false_iff]
      rintro ⟨marks, after, htext, hunit⟩
      obtain ⟨-, rfl⟩ := List.append_eq_nil_iff.mp htext.symm
      exact not_readsUnit_nil hunit
  | cons c rest ih =>
      by_cases hc : c = 'u'
      · subst hc
        have hstep : escapes.step .marker 'u' = some ([], .marker) := rfl
        rw [Transducer.run_cons_of_silent hstep, ih]
        constructor
        · rintro ⟨marks, after, rfl, hunit⟩
          exact ⟨marks + 1, after, rfl, hunit⟩
        · rintro ⟨marks, after, htext, hunit⟩
          cases marks with
          | zero =>
              obtain rfl := htext
              obtain ⟨value, hvalue, -⟩ := readsUnit_cons.mp hunit
              cases hvalue
          | succ marks =>
              exact ⟨marks, after, (List.cons.inj htext).2, hunit⟩
      · have hrun : escapes.run .marker (c :: rest)
            = (readDigit 0 0 c).bind fun first =>
              (escapes.run first.2 rest).map (first.1 ++ ·) := by
          simp [Transducer.run, escapes, hc]
        have hfour : 0 + 3 = 3 := rfl
        rw [hrun, readDigit_eq_some hfour]
        constructor
        · intro hunit
          exact ⟨0, c :: rest, rfl, hunit⟩
        · rintro ⟨marks, after, htext, hunit⟩
          cases marks with
          | zero => exact htext ▸ hunit
          | succ marks => exact absurd (List.cons.inj htext).1 hc

/-- The stage follows the rule behind a text that leaves nothing pending. -/
def Follows (text : List Char) : Prop :=
  ∀ before out, Even (backslashesAtEnd before) →
    (escapes.run .settled text = some out ↔ Translates before text out)

theorem run_escapes_live (heven : Even (backslashesAtEnd before))
    (hshorter : ∀ after, after.length ≤ rest.length → Follows after) :
    escapes.run .settled ('\\' :: 'u' :: rest) = some out ↔
      Translates before ('\\' :: 'u' :: rest) out := by
  have hback : escapes.step .settled '\\' = some ([], .backslash) := rfl
  have hmarker : escapes.step .backslash 'u' = some ([], .marker) := rfl
  rw [Transducer.run_cons_of_silent hback, Transducer.run_cons_of_silent hmarker,
    run_escapes_marker]
  have hbegin : ∀ (marks) {digits value}, digits.length = 4 → codeUnit? 0 digits = some value →
      Even (backslashesAtEnd (before ++ '\\' :: List.replicate (marks + 1) 'u' ++ digits)) := by
    intro marks digits value hdigits hcode
    have hne : digits ≠ [] := by
      rintro rfl
      cases hdigits
    rw [backslashesAtEnd_digits hne hcode]
    exact ⟨0, rfl⟩
  constructor
  · rintro ⟨marks, _, rfl, digits, after, value, d, more, rfl, hdigits, hcode, hchar, hmore, rfl⟩
    have hlength : after.length ≤ (List.replicate marks 'u' ++ (digits ++ after)).length := by
      simp only [List.length_append]
      omega
    have hrest := (hshorter after hlength _ more (hbegin marks hdigits hcode)).mp hmore
    have htext : '\\' :: 'u' :: (List.replicate marks 'u' ++ (digits ++ after))
        = '\\' :: List.replicate (marks + 1) 'u' ++ digits ++ after := by
      simp [List.replicate_succ]
    rw [htext]
    exact .escape heven hdigits hcode hchar hrest
  · intro h
    generalize htext : '\\' :: 'u' :: rest = text at h
    cases h with
    | nil => cases htext
    | plain hlive => exact absurd ⟨heven, htext ▸ by simp⟩ hlive
    | @escape _ digits after more marks value d _ hdigits hcode hchar hrest =>
        have hsplit : rest = List.replicate marks 'u' ++ (digits ++ after) := by
          simpa [List.replicate_succ] using htext
        have hlength : after.length ≤ rest.length := by
          simp only [hsplit, List.length_append]
          omega
        have hmore := (hshorter after hlength _ more (hbegin marks hdigits hcode)).mpr hrest
        exact ⟨marks, _, hsplit, digits, after, value, d, more, rfl, hdigits, hcode, hchar, hmore,
          rfl⟩

/-- Behind a backslash that starts no escape. -/
theorem run_escapes_backslash (hodd : ¬ Even (backslashesAtEnd before)) (hu : text.head? ≠ some 'u')
    (hshorter : ∀ after, after.length < text.length → Follows after) :
    escapes.run .backslash text = some out ↔
      ∃ more, out = '\\' :: more ∧ Translates before text more := by
  cases text with
  | nil =>
      have hrun : escapes.run .backslash [] = some ['\\'] := rfl
      simp [hrun, translates_nil, eq_comm]
  | cons c rest =>
      have hc : c ≠ 'u' := by simpa using hu
      have hstep : escapes.step .backslash c = some (['\\', c], .settled) := if_neg hc
      have hlive : ¬ Live before (c :: rest) := fun hlive => hodd hlive.1
      have heven : Even (backslashesAtEnd (before ++ [c])) := by
        rw [backslashesAtEnd_concat]
        split
        · exact Nat.even_add_one.mpr hodd
        · exact ⟨0, rfl⟩
      have hrest := hshorter rest (by simp) (before ++ [c])
      rw [Transducer.run_cons_of_step hstep, Option.map_eq_some_iff]
      constructor
      · rintro ⟨more, hmore, rfl⟩
        exact ⟨c :: more, rfl, .plain hlive ((hrest more heven).mp hmore)⟩
      · rintro ⟨_, rfl, hmore⟩
        obtain ⟨more, rfl, hafter⟩ := (translates_plain hlive).mp hmore
        exact ⟨more, (hrest more heven).mpr hafter, rfl⟩

theorem follows_of_shorter (hshorter : ∀ after, after.length < text.length → Follows after) :
    Follows text := by
  intro before out heven
  cases text with
  | nil =>
      have hrun : escapes.run .settled [] = some [] := rfl
      rw [hrun, translates_nil, Option.some.injEq, eq_comm]
  | cons c rest =>
      by_cases hc : c = '\\'
      · subst hc
        by_cases hu : rest.head? = some 'u'
        · obtain ⟨after, rfl⟩ := List.head?_eq_some_iff.mp hu
          exact run_escapes_live heven fun other hother => hshorter other (by simp; omega)
        · have hback : escapes.step .settled '\\' = some ([], .backslash) := rfl
          have hlive : ¬ Live before ('\\' :: rest) := by
            rintro ⟨-, hlead⟩
            obtain ⟨after, hafter⟩ := hlead
            obtain ⟨-, rfl⟩ := List.cons.inj hafter
            exact hu rfl
          have hodd : ¬ Even (backslashesAtEnd (before ++ ['\\'])) := by
            rw [backslashesAtEnd_concat, if_pos rfl, Nat.even_add_one, not_not]
            exact heven
          rw [Transducer.run_cons_of_silent hback, translates_plain hlive]
          exact run_escapes_backslash hodd hu fun other hother => hshorter other (by simp; omega)
      · have hstep : escapes.step .settled c = some ([c], .settled) := if_neg hc
        have hlive : ¬ Live before (c :: rest) := by
          rintro ⟨-, after, hafter⟩
          exact hc (List.cons.inj hafter).1.symm
        have heven' : Even (backslashesAtEnd (before ++ [c])) := by
          rw [backslashesAtEnd_concat, if_neg hc]
          exact ⟨0, rfl⟩
        have hrest := hshorter rest (by simp) (before ++ [c])
        rw [Transducer.run_cons_of_step hstep, Option.map_eq_some_iff, translates_plain hlive]
        constructor
        · rintro ⟨more, hmore, rfl⟩
          exact ⟨more, rfl, (hrest more heven').mp hmore⟩
        · rintro ⟨more, rfl, hmore⟩
          exact ⟨more, (hrest more heven').mpr hmore, rfl⟩

theorem follows (text : List Char) : Follows text := by
  induction hlength : text.length using Nat.strong_induction_on generalizing text with
  | _ n ih =>
      exact follows_of_shorter fun after hafter => ih _ (hlength ▸ hafter) after rfl

/-- A text comes out by the rule as what the stage gives. -/
theorem run_escapes_iff : escapes.run .settled text = some out ↔ Translates [] text out :=
  follows text [] out ⟨0, rfl⟩

/-! ## Texts without an escape -/

theorem Translates.length_le (h : Translates before text out) : out.length ≤ text.length := by
  induction h with
  | nil => rfl
  | plain _ _ ih => simpa using ih
  | escape _ hdigits _ _ _ ih =>
      simp only [List.length_cons, List.length_append, hdigits]
      omega

/-- No escape starts anywhere in the text. -/
def Settled (text : List Char) : Prop :=
  ∀ before after, text = before ++ after → ¬ Live before after

/-- A translation that changes nothing has met no escape, since each escape is longer than what
it stands for. -/
theorem not_live_of_translates (h : Translates before text out) (hsame : out = text)
    (first last : List Char) (hsplit : text = first ++ last) : ¬ Live (before ++ first) last := by
  induction h generalizing first with
  | nil =>
      obtain ⟨rfl, rfl⟩ := List.append_eq_nil_iff.mp hsplit.symm
      rintro ⟨-, hlead⟩
      simp at hlead
  | @plain before rest out c hlive hrest ih =>
      cases first with
      | nil =>
          obtain rfl : c :: rest = last := hsplit
          rwa [List.append_nil]
      | cons d first =>
          obtain ⟨rfl, hrest⟩ := List.cons.inj hsplit
          rw [List.append_cons]
          exact ih (List.cons.inj hsame).2 first hrest
  | escape _ hdigits _ _ hrest =>
      -- What comes out of an escape is shorter than the escape.
      have hlength := hrest.length_le
      have hsame := congrArg List.length hsame
      simp only [List.length_cons, List.length_append, hdigits] at hsame
      omega

theorem settled_of_translates (h : Translates [] text text) : Settled text :=
  fun first last hsplit => not_live_of_translates h rfl first last hsplit

end ModuleContainers.Lexical
