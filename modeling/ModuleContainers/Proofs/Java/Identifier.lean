import ModuleContainers.Proofs.Java.ClassName
import ModuleContainers.Proofs.Text.Category

/-!
# Identifiers of the language

The language specification (3.8 and 3.9) says what an identifier is by general categories:
it starts with a letter and goes on with letters and digits, in a wide sense of both, and
it is neither a keyword nor a literal. `isIdentifier` goes by the properties Alphabetic and
Numeric, which are not made for that.

The reserved words are the same. The characters are not: a text that `isIdentifier` takes
may start with a mark or with an enclosed letter, and may go on with another number or with
an enclosed letter. There is nothing else that it takes wrongly (`isJavaIdentifier_iff`).
-/

namespace ModuleContainers.Java

open Text (Category HasCategory hasCategory_append hasCategory_of_isAlphabetic
  hasCategory_of_isNumeric)

/-! ## The specification -/

def keywords : List String :=
  ["abstract", "continue", "for", "new", "switch", "assert", "default", "if", "package",
    "synchronized", "boolean", "do", "goto", "private", "this", "break", "double", "implements",
    "protected", "throw", "byte", "else", "import", "public", "throws", "case", "enum",
    "instanceof", "return", "transient", "catch", "extends", "int", "short", "try", "char",
    "final", "interface", "static", "void", "class", "finally", "long", "strictfp", "volatile",
    "const", "float", "native", "super", "while", "_"]

def literals : List String := ["true", "false", "null"]

def letterCategories : List Category := [.letter, .letterNumber, .currency, .connector]

def digitCategories : List Category := [.digit, .mark, .ignorable]

def IsJavaLetter (c : Char) : Prop := HasCategory letterCategories c

def IsJavaLetterOrDigit (c : Char) : Prop := HasCategory (letterCategories ++ digitCategories) c

structure IsJavaIdentifier (text : String) : Prop where
  nonempty : text ≠ ""
  unreserved : text ∉ keywords ++ literals
  first : ∀ c ∈ text.toList.head?, IsJavaLetter c
  later : ∀ c ∈ text.toList.tail, IsJavaLetterOrDigit c

/-! ## Characters -/

/-- Of alphabetic characters those that are no letters. -/
def letterlike : List Category := [.mark, .enclosed]

/-- Of alphabetic and numeric characters those that are neither letters nor digits. -/
def digitlike : List Category := [.otherNumber, .enclosed]

variable {c : Char}

theorem isIdentifierPart_iff :
    isIdentifierPart c = true ↔ isIdentifierStart c = true ∨ Text.isNumeric c = true := by
  simp only [isIdentifierPart, isIdentifierStart, Bool.or_eq_true]
  tauto

theorem hasCategory_of_isIdentifierStart (h : isIdentifierStart c = true) :
    HasCategory (letterCategories ++ letterlike) c := by
  simp only [isIdentifierStart, Bool.or_eq_true, beq_iff_eq] at h
  rcases h with (h | rfl) | rfl
  · exact (hasCategory_of_isAlphabetic h).mono (by decide)
  · exact ⟨.connector, by decide, by decide +kernel⟩
  · exact ⟨.currency, by decide, by decide +kernel⟩

theorem hasCategory_of_isIdentifierPart (h : isIdentifierPart c = true) :
    HasCategory (letterCategories ++ digitCategories ++ digitlike) c := by
  rcases isIdentifierPart_iff.mp h with h | h
  · exact (hasCategory_of_isIdentifierStart h).mono (by decide)
  · exact (hasCategory_of_isNumeric h).mono (by decide)

theorem isJavaLetter_iff (h : isIdentifierStart c = true) :
    IsJavaLetter c ↔ ¬ HasCategory letterlike c := by
  refine ⟨fun hletter => hletter.not_of_disjoint (by decide), fun hother => ?_⟩
  exact (hasCategory_append.mp (hasCategory_of_isIdentifierStart h)).resolve_right hother

theorem isJavaLetterOrDigit_iff (h : isIdentifierPart c = true) :
    IsJavaLetterOrDigit c ↔ ¬ HasCategory digitlike c := by
  refine ⟨fun hletter => hletter.not_of_disjoint (by decide), fun hother => ?_⟩
  exact (hasCategory_append.mp (hasCategory_of_isIdentifierPart h)).resolve_right hother

/-! ## Words -/

theorem not_reserved_of_isIdentifier {text : String} (h : isIdentifier text = true) :
    text ∉ keywords ++ literals := by
  have hwords : ∀ word ∈ keywords ++ literals, word ∈ reservedWords := by decide
  intro hmem
  simp only [isIdentifier, Bool.and_eq_true] at h
  simpa [hwords text hmem] using h.2

/-- Of what is taken for an identifier nothing is reserved, and it is an identifier of the
language unless it starts with a mark or an enclosed letter, or has another number or an
enclosed letter behind its first character. -/
theorem isJavaIdentifier_iff {text : String} (h : isIdentifier text = true) :
    text ∉ keywords ++ literals
      ∧ (IsJavaIdentifier text ↔
        (∀ c ∈ text.toList.head?, ¬ HasCategory letterlike c)
          ∧ ∀ c ∈ text.toList.tail, ¬ HasCategory digitlike c) := by
  have hreserved := not_reserved_of_isIdentifier h
  have hshape := isIdentifier_shape h
  have hnonempty : text ≠ "" := by
    rintro rfl
    cases hshape
  obtain ⟨first, rest, htext⟩ := List.exists_cons_of_ne_nil (ne_nil_of_hasIdentifierShape hshape)
  rw [htext] at hshape
  simp only [hasIdentifierShape, Bool.and_eq_true, List.all_eq_true] at hshape
  obtain ⟨hfirst, hrest⟩ := hshape
  have hhead : (∀ c ∈ text.toList.head?, IsJavaLetter c) ↔
      ∀ c ∈ text.toList.head?, ¬ HasCategory letterlike c := by
    simpa [htext] using isJavaLetter_iff hfirst
  have htail : (∀ c ∈ text.toList.tail, IsJavaLetterOrDigit c) ↔
      ∀ c ∈ text.toList.tail, ¬ HasCategory digitlike c := by
    rw [htext]
    exact forall₂_congr fun c hc => isJavaLetterOrDigit_iff (hrest c hc)
  refine ⟨hreserved, fun hjava => ⟨hhead.mp hjava.first, htail.mp hjava.later⟩, fun hother => ?_⟩
  exact ⟨hnonempty, hreserved, hhead.mpr hother.1, htail.mpr hother.2⟩

/-- Letters that are not of the basic alphabet make no difference. -/
theorem isJavaIdentifier_accented :
    isIdentifier "gr\u00F6\u00DFe2" = true ∧ IsJavaIdentifier "gr\u00F6\u00DFe2" := by
  have h : isIdentifier "gr\u00F6\u00DFe2" = true := by decide +kernel
  have htext : "gr\u00F6\u00DFe2".toList = ['g', 'r', '\u00F6', '\u00DF', 'e', '2'] := by
    decide +kernel
  have hfirst : ¬ HasCategory letterlike 'g' := by decide +kernel
  have hrest : (['r', '\u00F6', '\u00DF', 'e', '2'].all fun c => !decide (HasCategory digitlike c))
      = true := by decide +kernel
  refine ⟨h, (isJavaIdentifier_iff h).2.mpr ?_⟩
  rw [htext]
  exact ⟨by simpa using hfirst, by simpa using hrest⟩

/-- A superscript behind the first character, and a mark and a circled letter as the first
one. -/
theorem isIdentifier_not_java :
    (isIdentifier "x\u00B2" = true ∧ ¬ IsJavaIdentifier "x\u00B2")
      ∧ (isIdentifier "\u0345" = true ∧ ¬ IsJavaIdentifier "\u0345")
      ∧ (isIdentifier "\u24B6" = true ∧ ¬ IsJavaIdentifier "\u24B6") := by
  have hsuperscript : ¬ HasCategory (letterCategories ++ digitCategories) '\u00B2' := by
    decide +kernel
  have hmark : ¬ HasCategory letterCategories '\u0345' := by decide +kernel
  have hcircled : ¬ HasCategory letterCategories '\u24B6' := by decide +kernel
  refine ⟨⟨by decide +kernel, fun h => hsuperscript (h.later _ ?_)⟩,
    ⟨by decide +kernel, fun h => hmark (h.first _ ?_)⟩,
    ⟨by decide +kernel, fun h => hcircled (h.first _ ?_)⟩⟩
  all_goals decide +kernel

end ModuleContainers.Java
