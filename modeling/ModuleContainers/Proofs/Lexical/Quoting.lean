import ModuleContainers.Container.Javadoc
import ModuleContainers.Proofs.Lexical.Reading

/-!
# Free text in source

Texts of the metadata get into source in three ways, and none of them can leave
the place it was put in:

- a string literal reads as the one token that stands for the text
  (`readsAs_stringLiteral`);
- a line comment reads as nothing and ends with its line (`readsAs_lineComment`);
- a line of a block comment leaves the comment open (`staysInComment_line`), and
  the comment reads as nothing (`readsAs_blockComment`).

In the first case the unicode escapes of the literal are replaced before the
literal is read, in the other two nothing is replaced, because every backslash
of a comment is doubled.
-/

namespace ModuleContainers.Lexical

open ModuleContainers.Java (escapeBackslashes isControl literalChar literalChars stringLiteral
  unitEscape)
open ModuleContainers.Container (escapeCommentEnd)

/-! ## String literals -/

/-- A character that needs no escape stands for itself. -/
theorem feed_literal_plain (value : List Char) {c : Char} (hquote : c ≠ '"') (hback : c ≠ '\\')
    (hterminator : isTerminator c = false) :
    scanner.feed (.literal value) [c] = some ([], .literal (value ++ [c])) := by
  simp [Transducer.feed, scanner, extend, hquote, hback, hterminator]

/-- An escape of two characters stands for the character that it names. -/
theorem feed_literal_escape (value : List Char) {c d : Char} (hu : c ≠ 'u')
    (hvalue : escapeValue c = some d) :
    lexer.feed (.settled, .literal value) ['\\', c]
      = some ([], (.settled, .literal (value ++ [d]))) := by
  have hescapes : escapes.feed .settled ['\\', c] = some (['\\', c], .settled) := by
    simp [Transducer.feed, escapes, hu]
  refine Transducer.feed_compose_of_feed hescapes ?_
  simp [Transducer.feed, scanner, extend, hvalue, isTerminator]

/-- The escapes of two characters that a literal is written with: the character behind
the backslash, and the one that is meant. -/
def literalEscapes : List (Char × Char) :=
  [('b', '\x08'), ('t', '\t'), ('n', '\n'), ('f', '\x0c'), ('r', '\r'), ('"', '"'), ('\\', '\\')]

theorem escapeValue_of_mem {c d : Char} (h : (d, c) ∈ literalEscapes) :
    d ≠ 'u' ∧ escapeValue d = some c := by
  have hall : ∀ pair ∈ literalEscapes, pair.1 ≠ 'u' ∧ escapeValue pair.1 = some pair.2 := by
    decide
  exact hall _ h

/-- A character is written by an escape of two characters, by its code unit, or
by itself. -/
theorem literalChar_cases (c : Char) :
    (∃ d, literalChar c = ['\\', d] ∧ (d, c) ∈ literalEscapes)
      ∨ (c ≠ '"' ∧ c ≠ '\\' ∧ isTerminator c = false)
        ∧ (literalChar c = unitEscape c ∧ c.toNat < 65536 ∨ literalChar c = [c]) := by
  by_cases hnamed : c ∈ ['"', '\\', '\n', '\r', '\t', '\x08', '\x0c']
  · left
    simp only [List.mem_cons, List.not_mem_nil, or_false] at hnamed
    rcases hnamed with rfl | rfl | rfl | rfl | rfl | rfl | rfl <;>
      exact ⟨_, rfl, by decide⟩
  · right
    simp only [List.mem_cons, List.not_mem_nil, or_false, not_or] at hnamed
    obtain ⟨hquote, hback, hn, hr, ht, hb, hf⟩ := hnamed
    refine ⟨⟨hquote, hback, by simp [isTerminator, hn, hr]⟩, ?_⟩
    simp only [literalChar, hquote, hback, hn, hr, ht, hb, hf, if_false]
    split
    · next hcontrol =>
        simp only [isControl, Bool.or_eq_true, Bool.and_eq_true, decide_eq_true_eq] at hcontrol
        exact .inl ⟨rfl, by omega⟩
    · exact .inr rfl

theorem feed_literalChar (value : List Char) (c : Char) :
    lexer.feed (.settled, .literal value) (literalChar c)
      = some ([], (.settled, .literal (value ++ [c]))) := by
  obtain ⟨d, hchar, hmem⟩ | ⟨⟨hquote, hback, hterminator⟩, ⟨hchar, hcode⟩ | hchar⟩ :=
    literalChar_cases c
  · obtain ⟨hu, hvalue⟩ := escapeValue_of_mem hmem
    rw [hchar]
    exact feed_literal_escape value hu hvalue
  · rw [hchar]
    exact Transducer.feed_compose_of_feed (feed_escapes_unitEscape hcode)
      (feed_literal_plain value hquote hback hterminator)
  · rw [hchar]
    exact Transducer.feed_compose_of_feed
      (feed_escapes_of_plain (by simpa using fun h => hback h.symm))
      (feed_literal_plain value hquote hback hterminator)

theorem feed_literalChars : ∀ (value text : List Char),
    lexer.feed (.settled, .literal value) (text.flatMap literalChar)
      = some ([], (.settled, .literal (value ++ text)))
  | value, [] => by simp
  | value, c :: rest => by
      have hrest := feed_literalChars (value ++ [c]) rest
      rw [List.append_assoc] at hrest
      exact Transducer.feed_append_of_feed (feed_literalChar value c) hrest

theorem readsAs_stringLiteral (text : String) :
    ReadsAs .loose (stringLiteral text).toList [.literal text] := by
  have hopen : lexer.feed fresh ['"'] = some ([], (.settled, .literal [])) := by decide
  have hclose : lexer.feed (.settled, .literal text.toList) ['"']
      = some ([], (.settled, .literalEnd text.toList)) := by
    simp [Transducer.feed, lexer, Transducer.compose, escapes, scanner, extend]
  have hbody := feed_literalChars [] text.toList
  have hfeed := Transducer.feed_append_of_feed (Transducer.feed_append_of_feed hopen hbody) hclose
  refine ⟨[], .literalEnd text.toList, [.literal text], ?_, rfl, by simp [close], rfl⟩
  simpa [stringLiteral, literalChars] using hfeed

/-! ## Line comments -/

theorem feed_lineComment : ∀ {text : List Char}, (∀ c ∈ text, isTerminator c = false) →
    scanner.feed .lineComment text = some ([], .lineComment)
  | [], _ => rfl
  | c :: rest, h => by
      have hc : scanner.step .lineComment c = some ([], .lineComment) := by
        simp [scanner, extend, h c (List.mem_cons_self ..)]
      have hrest := feed_lineComment fun d hd => h d (List.mem_cons_of_mem _ hd)
      simp [Transducer.feed, hc, hrest]

theorem mem_escapeBackslashes {text : List Char} {c : Char} :
    c ∈ escapeBackslashes text ↔ c ∈ text := by
  simp only [escapeBackslashes, List.mem_flatMap]
  constructor
  · rintro ⟨d, hd, hc⟩
    split at hc
    · next h => simp only [List.mem_cons, List.not_mem_nil, or_false, or_self] at hc; rwa [hc, ← h]
    · simp only [List.mem_singleton] at hc; rwa [hc]
  · intro h
    refine ⟨c, h, ?_⟩
    split
    · next heq => simp [heq]
    · simp

/-- A comment mark, a text without line terminators whose backslashes are
doubled, and the end of the line. -/
theorem readsAs_lineComment {text : List Char} (h : ∀ c ∈ text, isTerminator c = false) :
    ReadsAs .sealed (['/', '/'] ++ escapeBackslashes text ++ ['\n']) [] := by
  have hopen : lexer.feed fresh ['/', '/'] = some ([], (.settled, .lineComment)) := by decide
  have hbody : lexer.feed (.settled, .lineComment) (escapeBackslashes text)
      = some ([], (.settled, .lineComment)) :=
    Transducer.feed_compose_of_feed (feed_escapes_escapeBackslashes text)
      (feed_lineComment fun c hc => h c (mem_escapeBackslashes.mp hc))
  have hclose : lexer.feed (.settled, .lineComment) ['\n'] = some ([], fresh) := by decide
  exact ⟨[], .between, [],
    Transducer.feed_append_of_feed (Transducer.feed_append_of_feed hopen hbody) hclose,
    rfl, rfl, rfl⟩

/-! ## Block comments -/

theorem escapeBackslashes_cons (c : Char) (rest : List Char) :
    escapeBackslashes (c :: rest)
      = (if c = '\\' then ['\\', '\\'] else [c]) ++ escapeBackslashes rest := rfl

theorem head?_escapeBackslashes (text : List Char) :
    (escapeBackslashes text).head? = text.head? := by
  cases text with
  | nil => rfl
  | cons c rest =>
      rw [escapeBackslashes_cons]
      split
      · next h => simp [h]
      · rfl

theorem escapeCommentEnd_cons {c : Char} {rest : List Char}
    (h : c = '*' → rest.head? ≠ some '/') :
    escapeCommentEnd (c :: rest) = c :: escapeCommentEnd rest := by
  -- The function is unfolded, because its equations for the patterns take long to be made.
  conv_lhs => unfold escapeCommentEnd
  split
  · next tail heq =>
      obtain ⟨rfl, rfl⟩ := List.cons.inj heq
      exact absurd rfl (h rfl)
  · next heq =>
      obtain ⟨rfl, rfl⟩ := List.cons.inj heq
      rfl
  · next heq => cases heq

/-- Neither escape has to do with the characters of the other. -/
theorem escapeCommentEnd_escapeBackslashes (text : List Char) :
    escapeCommentEnd (escapeBackslashes text) = escapeBackslashes (escapeCommentEnd text) := by
  fun_induction escapeCommentEnd text with
  | case1 rest ih =>
      have hstart : escapeCommentEnd (escapeBackslashes ('*' :: '/' :: rest))
          = "*&#47;".toList ++ escapeCommentEnd (escapeBackslashes rest) := rfl
      rw [hstart, ih]
      rfl
  | case2 c rest h ih =>
      rw [escapeBackslashes_cons, escapeBackslashes_cons, ← ih]
      by_cases hc : c = '\\'
      · subst hc
        have hback : ∀ text, escapeCommentEnd ('\\' :: text) = '\\' :: escapeCommentEnd text :=
          fun text => escapeCommentEnd_cons fun h => absurd h (by decide)
        simp [hback]
      · rw [if_neg hc, List.singleton_append, List.singleton_append]
        refine escapeCommentEnd_cons ?_
        rintro rfl
        rw [head?_escapeBackslashes]
        exact fun hslash => by
          obtain ⟨tail, rfl⟩ := List.head?_eq_some_iff.mp hslash
          exact h tail rfl rfl
  | case3 => rfl

/-- Text whose end marks are replaced does not end a comment, unless it starts
with the slash of an end mark. -/
theorem feed_blockComment (text : List Char) (star : Bool)
    (h : star = true → text.head? ≠ some '/') :
    ∃ star', scanner.feed (.blockComment star) (escapeCommentEnd text)
      = some ([], .blockComment star') := by
  fun_induction escapeCommentEnd text generalizing star with
  | case1 rest ih =>
    obtain ⟨star', hrest⟩ := ih false (by simp)
    refine ⟨star', ?_⟩
    have hmark : scanner.feed (.blockComment star) "*&#47;".toList
        = some ([], .blockComment false) := by
      cases star <;> decide
    exact Transducer.feed_append_of_feed hmark hrest
  | case2 c rest hpair ih =>
    obtain ⟨star', hrest⟩ := ih (c == '*') fun hc hslash => by
      obtain ⟨tail, rfl⟩ := List.head?_eq_some_iff.mp hslash
      exact hpair tail (beq_iff_eq.mp hc) rfl
    have hstep : scanner.step (.blockComment star) c = some ([], .blockComment (c == '*')) := by
      have hopen : ¬ (star = true ∧ c = '/') := fun ⟨hstar, hc⟩ => h hstar (by rw [hc]; rfl)
      simp [scanner, extend, hopen]
    exact ⟨star', by simp [Transducer.feed, hstep, hrest]⟩
  | case3 => exact ⟨star, rfl⟩

/-- A part of a block comment after which the comment is open and no end mark has
begun. -/
def StaysInComment (text : List Char) : Prop :=
  lexer.feed (.settled, .blockComment false) text = some ([], (.settled, .blockComment false))

theorem StaysInComment.append {a b : List Char} (ha : StaysInComment a) (hb : StaysInComment b) :
    StaysInComment (a ++ b) :=
  Transducer.feed_append_of_feed ha hb

/-- Blanks are blanks in a comment, too. -/
theorem staysInComment_blanks :
    ∀ {text : List Char}, (∀ c ∈ text, c = ' ' ∨ c = '\t') → StaysInComment text
  | [], _ => rfl
  | c :: rest, h => by
      have hc : StaysInComment [c] := by
        rcases h c (List.mem_cons_self ..) with rfl | rfl <;>
          (unfold StaysInComment; decide)
      exact hc.append (staysInComment_blanks fun d hd => h d (List.mem_cons_of_mem _ hd))

/-- A line of a comment is a star, a blank and a text whose escapes are made. -/
theorem staysInComment_line (text : List Char) :
    StaysInComment ([' ', '*', ' '] ++ escapeCommentEnd (escapeBackslashes text) ++ ['\n']) := by
  obtain ⟨star, hscan⟩ := feed_blockComment (escapeBackslashes text) false (by simp)
  have hbody : lexer.feed (.settled, .blockComment false)
      (escapeCommentEnd (escapeBackslashes text)) = some ([], (.settled, .blockComment star)) := by
    refine Transducer.feed_compose_of_feed ?_ hscan
    rw [escapeCommentEnd_escapeBackslashes]
    exact feed_escapes_escapeBackslashes _
  have hopen : StaysInComment [' ', '*', ' '] := by unfold StaysInComment; decide
  have hbreak : lexer.feed (.settled, .blockComment star) ['\n']
      = some ([], (.settled, .blockComment false)) := by
    cases star <;> decide
  exact Transducer.feed_append_of_feed (Transducer.feed_append_of_feed hopen hbody) hbreak

/-- An empty line of a comment is a star. -/
theorem staysInComment_emptyLine : StaysInComment [' ', '*', '\n'] := by
  unfold StaysInComment; decide

/-- The mark that opens a comment and its line, lines of the comment, and the
mark that closes it. -/
theorem readsAs_blockComment {lines : List Char} (h : StaysInComment lines) :
    ReadsAs .sealed (['/', '*', '*', '\n'] ++ lines ++ [' ', '*', '/', '\n']) [] := by
  have hopen : lexer.feed fresh ['/', '*', '*', '\n']
      = some ([], (.settled, .blockComment false)) := by decide
  have hclose : lexer.feed (.settled, .blockComment false) [' ', '*', '/', '\n']
      = some ([], fresh) := by decide
  exact ⟨[], .between, [],
    Transducer.feed_append_of_feed (Transducer.feed_append_of_feed hopen h) hclose, rfl, rfl, rfl⟩

end ModuleContainers.Lexical
