import ModuleContainers.Java.Identifier
import ModuleContainers.Proofs.Lexical.UnicodeEscape

/-!
# The tokens of a source text

A compiler sees a source text as a sequence of tokens: words, numbers, symbols
and string literals. White space and comments stand between tokens and are none.
A token is as long as it can be, so a word is a maximal run of the characters
that may go on with an identifier, and `->` is one symbol.

`scanner` finds the tokens in a text whose unicode escapes have been replaced,
and `lex` does both. What is pending - the token that may still go on, or the
comment that the text is in - is a `Mode`. A literal that does not end on its
line, a comment that does not end, and a character that starts nothing are
refused; so are text blocks, character literals and octal escapes, which have no
use in generated code.
-/

namespace ModuleContainers.Lexical

open ModuleContainers.Java (isIdentifierPart isIdentifierStart)

/-- A token of a source text. -/
inductive Token where
  /-- An identifier or a word of the language. -/
  | word (text : String)
  | number (text : String)
  /-- An operator or a separator. -/
  | symbol (text : String)
  /-- A string literal, by the text it stands for. -/
  | literal (value : String)
  deriving Repr, DecidableEq

/-- What the characters read so far may still become. -/
inductive Mode where
  /-- Nothing is pending. -/
  | between
  | word (text : List Char)
  | number (text : List Char)
  | operator (text : List Char)
  /-- Inside a string literal. -/
  | literal (value : List Char)
  /-- Behind a backslash in a string literal. -/
  | literalEscape (value : List Char)
  /-- Behind the quote that ends a string literal. -/
  | literalEnd (value : List Char)
  | textBlock
  | lineComment
  /-- Inside a comment that a star and a slash end; whether a star stands last. -/
  | blockComment (star : Bool)
  deriving Repr, DecidableEq

/-! ## Characters -/

/-- White space, line terminators included. -/
def isSpace (c : Char) : Bool := [' ', '\t', '\n', '\r', '\x0c'].contains c

/-- The character ends a line. -/
def isTerminator (c : Char) : Bool := c == '\n' || c == '\r'

/-- A symbol that no symbol starts with but itself. An ellipsis is read as three
dots. -/
def isSeparator (c : Char) : Bool :=
  ['(', ')', '\x7b', '\x7d', '[', ']', ';', ',', '.', '@'].contains c

/-- The other symbols. Each starts with a symbol. -/
def operators : List (List Char) :=
  [['='], ['>'], ['<'], ['!'], ['~'], ['?'], [':'], ['-', '>'], ['=', '='], ['>', '='], ['<', '='],
    ['!', '='], ['&', '&'], ['|', '|'], ['+', '+'], ['-', '-'], ['+'], ['-'], ['*'], ['/'], ['&'],
    ['|'], ['^'], ['%'], ['<', '<'], ['>', '>'], ['>', '>', '>'], ['+', '='], ['-', '='],
    ['*', '='], ['/', '='], ['&', '='], ['|', '='], ['^', '='], ['%', '='], ['<', '<', '='],
    ['>', '>', '='], ['>', '>', '>', '='], [':', ':']]

/-- The character that an escape of a string literal stands for, by the character
behind the backslash. -/
def escapeValue : Char → Option Char
  | 'b' => some '\x08'
  | 's' => some ' '
  | 't' => some '\t'
  | 'n' => some '\n'
  | 'f' => some '\x0c'
  | 'r' => some '\r'
  | '"' => some '"'
  | '\'' => some '\''
  | '\\' => some '\\'
  | _ => none

/-! ## The scanner -/

/-- What is pending when the character goes on with what was pending. -/
def extend : Mode → Char → Option Mode
  | .between, _ => none
  | .word text, c => if isIdentifierPart c then some (.word (text ++ [c])) else none
  | .number text, c => if isIdentifierPart c then some (.number (text ++ [c])) else none
  | .operator text, c =>
      if text = ['/'] ∧ c = '/' then some .lineComment
      else if text = ['/'] ∧ c = '*' then some (.blockComment false)
      else if operators.contains (text ++ [c]) then some (.operator (text ++ [c]))
      else none
  | .literal value, c =>
      if c = '"' then some (.literalEnd value)
      else if c = '\\' then some (.literalEscape value)
      else if isTerminator c then none
      else some (.literal (value ++ [c]))
  | .literalEscape value, c => (escapeValue c).map fun d => .literal (value ++ [d])
  | .literalEnd value, c => if value = [] ∧ c = '"' then some .textBlock else none
  | .textBlock, _ => some .textBlock
  | .lineComment, c => if isTerminator c then some .between else some .lineComment
  | .blockComment star, c =>
      if star ∧ c = '/' then some .between else some (.blockComment (c == '*'))

/-- The token that is there when nothing goes on with what was pending. -/
def close : Mode → Option (List Token)
  | .between => some []
  | .word text => some [.word (String.ofList text)]
  | .number text => some [.number (String.ofList text)]
  | .operator text => some [.symbol (String.ofList text)]
  | .literalEnd value => some [.literal (String.ofList value)]
  | .lineComment => some []
  | .literal _ | .literalEscape _ | .textBlock | .blockComment _ => none

/-- What a character starts when nothing is pending. -/
def start (c : Char) : Option (List Token × Mode) :=
  if isSpace c then some ([], .between)
  else if isIdentifierStart c then some ([], .word [c])
  else if c.isDigit then some ([], .number [c])
  else if c = '"' then some ([], .literal [])
  else if isSeparator c then some ([.symbol (String.singleton c)], .between)
  else if operators.contains [c] then some ([], .operator [c])
  else none

/-- The stage that finds the tokens. -/
def scanner : Transducer Char Token Mode where
  step mode c :=
    match extend mode c with
    | some mode => some ([], mode)
    | none =>
        (close mode).bind fun done => (start c).map fun begun => (done ++ begun.1, begun.2)
  finish := close

/-- The tokens of a source text. -/
def lex (text : String) : Option (List Token) :=
  (escapes.run .settled text.toList).bind (scanner.run .between)

/-! ## One pass

Both stages read a text from its start to its end, so they can read it together.
A fragment of source is then a step from one state of `lexer` to another. -/

/-- Both stages side by side. -/
def lexer : Transducer Char Token (EscapeState × Mode) := escapes.compose scanner

/-- The state between two tokens. -/
def fresh : EscapeState × Mode := (.settled, .between)

theorem lex_eq_run (text : String) : lex text = lexer.run fresh text.toList :=
  (Transducer.run_compose escapes scanner .settled .between text.toList).symm

/-- An escaped letter is part of a word; behind a pair of backslashes there is
no escape. -/
example : lex "\\u0061.b(\"c\\\\u\\t\", -1);// \"" =
    some [.word "a", .symbol ".", .word "b", .symbol "(", .literal "c\\u\t", .symbol ",",
      .symbol "-", .number "1", .symbol ")", .symbol ";"] := by
  decide

end ModuleContainers.Lexical
