import ModuleContainers.Proofs.Java.Fragment
import ModuleContainers.Proofs.Lexical.Translation

/-!
# What a string literal denotes

A literal is read in two steps. Unicode escapes are replaced in the whole source text
first, and what comes out is a quote, a body and a quote; in the body a backslash and
the character behind it stand for one character, and every other one for itself
(`LiteralBody`). No text has more than one literal at its front (`LiteralBody.unique`).

The literal of a text comes out of the first step with its control characters as
they are and is then a literal of that text (`stringLiteral_denotes`).
-/

namespace ModuleContainers.Java

open Lexical (Translates Transducer escapes isTerminator lex literalEscapes)

variable {body body' value value' : List Char}

/-! ## Literals -/

/-- What stands between the quotes, and the text that it denotes. -/
inductive LiteralBody : List Char → List Char → Prop where
  | nil : LiteralBody [] []
  | plain {c : Char} {rest value : List Char} (hquote : c ≠ '"') (hback : c ≠ '\\')
      (hterminator : isTerminator c = false) (hrest : LiteralBody rest value) :
      LiteralBody (c :: rest) (c :: value)
  | escape {d c : Char} {rest value : List Char} (hescape : (d, c) ∈ literalEscapes)
      (hrest : LiteralBody rest value) : LiteralBody ('\\' :: d :: rest) (c :: value)

/-- The text is a string literal, and it denotes the value. -/
def IsLiteral (text value : List Char) : Prop :=
  ∃ body, text = '"' :: body ++ ['"'] ∧ LiteralBody body value

/-- A character behind a backslash has one meaning. -/
theorem meaning_unique {c c' d : Char} (h : (d, c) ∈ literalEscapes)
    (h' : (d, c') ∈ literalEscapes) : c = c' := by
  have hall : ∀ pair ∈ literalEscapes, ∀ pair' ∈ literalEscapes,
      pair.1 = pair'.1 → pair.2 = pair'.2 := by decide
  exact hall _ h _ h' rfl

theorem isTerminator_of_mem_literalEscapes {c d : Char} (h : (d, c) ∈ literalEscapes) :
    isTerminator d = false := by
  have hall : ∀ pair ∈ literalEscapes, isTerminator pair.1 = false := by decide
  exact hall _ h

/-- The first quote that is not escaped ends a literal, and escapes are told apart by the
character behind the backslash. -/
theorem LiteralBody.unique (h : LiteralBody body value) (h' : LiteralBody body' value')
    (hlead : body' ++ ['"'] <+: body ++ ['"']) : body' = body ∧ value' = value := by
  induction h generalizing body' value' with
  | nil =>
      cases h' with
      | nil => exact ⟨rfl, rfl⟩
      | plain hquote => exact absurd (List.cons_prefix_cons.mp hlead).1 hquote
      | escape => exact absurd (List.cons_prefix_cons.mp hlead).1 (by decide)
  | plain hquote hback _ _ ih =>
      cases h' with
      | nil => exact absurd (List.cons_prefix_cons.mp hlead).1.symm hquote
      | plain _ _ _ hrest =>
          obtain ⟨rfl, hmore⟩ := List.cons_prefix_cons.mp hlead
          obtain ⟨rfl, rfl⟩ := ih hrest hmore
          exact ⟨rfl, rfl⟩
      | escape => exact absurd (List.cons_prefix_cons.mp hlead).1.symm hback
  | @escape d c _ _ hescape _ ih =>
      cases h' with
      | nil => exact absurd (List.cons_prefix_cons.mp hlead).1 (by decide)
      | plain _ hback => exact absurd (List.cons_prefix_cons.mp hlead).1 hback
      | @escape _ c' _ _ hescape' hrest =>
          obtain ⟨-, hpair⟩ := List.cons_prefix_cons.mp hlead
          obtain ⟨rfl, hmore⟩ := List.cons_prefix_cons.mp hpair
          obtain ⟨rfl, rfl⟩ := ih hrest hmore
          obtain rfl : c' = c := meaning_unique hescape' hescape
          exact ⟨rfl, rfl⟩

/-! ## The literal of a text -/

/-- What comes out of the characters of a literal. -/
theorem translated_literalChars (text : List Char) :
    ∃ body, escapes.feed .settled (text.flatMap literalChar) = some (body, .settled)
      ∧ LiteralBody body text ∧ ∀ c ∈ body, isTerminator c = false := by
  induction text with
  | nil => exact ⟨[], rfl, .nil, by simp⟩
  | cons c rest ih =>
      obtain ⟨body, hfeed, hbody, hline⟩ := ih
      rw [List.flatMap_cons]
      rcases Lexical.literalChar_cases c with ⟨d, hc, hescape⟩ | ⟨⟨hquote, hback, hterminator⟩, hc⟩
      · obtain ⟨hu, -⟩ := Lexical.escapeValue_of_mem hescape
        have hpair : escapes.feed .settled (literalChar c) = some (['\\', d], .settled) := by
          rw [hc]
          simp [Transducer.feed, escapes, hu]
        have hback : isTerminator '\\' = false := by decide
        exact ⟨['\\', d] ++ body, Transducer.feed_append_of_feed hpair hfeed,
          .escape hescape hbody,
          List.forall_mem_cons.mpr ⟨hback, List.forall_mem_cons.mpr
            ⟨isTerminator_of_mem_literalEscapes hescape, hline⟩⟩⟩
      · have hself : escapes.feed .settled (literalChar c) = some ([c], .settled) := by
          rcases hc with ⟨hc, hcode⟩ | hc
          · rw [hc]
            exact Lexical.feed_escapes_unitEscape hcode
          · rw [hc]
            exact Lexical.feed_escapes_of_plain (by simpa using fun h => hback h.symm)
        exact ⟨[c] ++ body, Transducer.feed_append_of_feed hself hfeed,
          .plain hquote hback hterminator hbody, List.forall_mem_cons.mpr ⟨hterminator, hline⟩⟩

/-- The first step leaves the quotes of a literal as they are. -/
theorem translated_stringLiteral {value : String} {body : List Char}
    (hbody : escapes.feed .settled (value.toList.flatMap literalChar) = some (body, .settled)) :
    escapes.run .settled (stringLiteral value).toList = some ('"' :: body ++ ['"']) := by
  have hquote : escapes.feed .settled ['"'] = some (['"'], .settled) :=
    Lexical.feed_escapes_of_plain (by decide)
  have hfeed := Transducer.feed_append_of_feed
    (Transducer.feed_append_of_feed hquote hbody) hquote
  have hrun := Transducer.run_of_feed hfeed rfl
  simpa [stringLiteral, literalChars] using hrun

/-- The literal of a text stands on one line, before its unicode escapes are replaced and
afterwards. By the rule for them it comes out as exactly one text, which is a literal from
its start to its end and denotes the text; nothing shorter at its front is a literal. It
reads as one token. -/
theorem stringLiteral_denotes (value : String) :
    (∀ c ∈ (stringLiteral value).toList, isTerminator c = false)
      ∧ (∃ text, (∀ out, Translates [] (stringLiteral value).toList out ↔ out = text)
        ∧ (∀ c ∈ text, isTerminator c = false)
        ∧ IsLiteral text value.toList
        ∧ ∀ front held, front <+: text → IsLiteral front held →
          front = text ∧ held = value.toList)
      ∧ lex (stringLiteral value) = some [.literal value] := by
  obtain ⟨body, hfeed, hbody, hline⟩ := translated_literalChars value.toList
  have hrun := translated_stringLiteral hfeed
  have hquote : isTerminator '"' = false := by decide
  refine ⟨fun c => Fragment.isTerminator_of_mem_stringLiteral, ⟨'"' :: body ++ ['"'],
    fun out => ?_, ?_, ⟨body, rfl, hbody⟩, ?_⟩, (Lexical.readsAs_stringLiteral value).lex⟩
  · rw [← Lexical.run_escapes_iff, hrun, Option.some.injEq, eq_comm]
  · exact List.forall_mem_append.mpr
      ⟨List.forall_mem_cons.mpr ⟨hquote, hline⟩, List.forall_mem_singleton.mpr hquote⟩
  · rintro _ held hlead ⟨other, rfl, hother⟩
    obtain ⟨-, hmore⟩ := List.cons_prefix_cons.mp hlead
    obtain ⟨rfl, rfl⟩ := hbody.unique hother hmore
    exact ⟨rfl, rfl⟩

end ModuleContainers.Java
