/-!
# Places in a YAML text

A `Cursor` is a place in a text: the characters that are left, and how many
characters and lines lie before it. Indentation is a matter of columns, and a
key has to stand on one line with its colon, so both are counted.

A text has no null character (`isAllowed`), which leaves that character to stand
for the end of the text.
-/

namespace ModuleContainers.Document.Yaml

/-! ## Characters -/

/-- The character at the end of every text. -/
def endMark : Char := '\x00'

def isAllowed (c : Char) : Bool :=
  let n := c.toNat
  n == 0x09 || n == 0x0A || n == 0x0D || (0x20 ≤ n && n ≤ 0x7E) || n == 0x85
    || (0xA0 ≤ n && n ≤ 0xFFFD) || 0x10000 ≤ n

def isBlank (c : Char) : Bool := c == ' ' || c == '\t'

def isBreak (c : Char) : Bool :=
  c == '\n' || c == '\r' || c == '\x85' || c == '\u2028' || c == '\u2029'

def isLineEnd (c : Char) : Bool := isBreak c || c == endMark

def isWordEnd (c : Char) : Bool := isBlank c || isLineEnd c

def isNameChar (c : Char) : Bool := c.isAlphanum || c == '_' || c == '-'

def isFlowDelimiter (c : Char) : Bool :=
  c == ',' || c == '[' || c == ']' || c == '\x7b' || c == '\x7d'

/-! ## Cursors -/

structure Cursor where
  rest : List Char
  index : Nat := 0
  line : Nat := 0
  column : Nat := 0
  deriving Repr, DecidableEq

namespace Cursor

def peek (cursor : Cursor) (ahead : Nat) : Char := cursor.rest.getD ahead endMark

def next (cursor : Cursor) : Char := cursor.peek 0

def atEnd (cursor : Cursor) : Bool := cursor.next == endMark

/-- The place so many characters on, on the same line. -/
def skip (cursor : Cursor) (count : Nat) : Cursor :=
  { cursor with
    rest := cursor.rest.drop count
    index := cursor.index + count
    column := cursor.column + count }

/-- The place after a line break, which may be two characters long. -/
def skipBreak (cursor : Cursor) : Cursor :=
  let count := if cursor.next = '\r' ∧ cursor.peek 1 = '\n' then 2 else 1
  ⟨cursor.rest.drop count, cursor.index + count, cursor.line + 1, 0⟩

/-- What a line break adds to a text: a line feed, or the separator that it is.
No break adds nothing. -/
def breakText (cursor : Cursor) : List Char :=
  let c := cursor.next
  if c = '\u2028' ∨ c = '\u2029' then [c] else if isBreak c then ['\n'] else []

/-- The characters up to the first without a property, and the place of that one.
The property must not hold of line breaks. -/
def takeWhile (cursor : Cursor) (property : Char → Bool) : List Char × Cursor :=
  let taken := cursor.rest.takeWhile property
  (taken, cursor.skip taken.length)

def dropWhile (cursor : Cursor) (property : Char → Bool) : Cursor :=
  (cursor.takeWhile property).2

/-- The same character stands three times at the beginning of a line, as a word
of its own. -/
def atMark (cursor : Cursor) (c : Char) : Bool :=
  cursor.column == 0 && cursor.next == c && cursor.peek 1 == c && cursor.peek 2 == c
    && isWordEnd (cursor.peek 3)

def atDocumentMark (cursor : Cursor) : Bool := cursor.atMark '-' || cursor.atMark '.'

/-- The end of the line: blanks and a comment are passed over, and nothing else
may be left on it. -/
def lineEnd? (cursor : Cursor) : Option Cursor :=
  let cursor := cursor.dropWhile isBlank
  let cursor := if cursor.next = '#' then cursor.dropWhile (fun c => !isBreak c) else cursor
  if isBreak cursor.next then some cursor.skipBreak
  else if cursor.atEnd then some cursor
  else none

end Cursor

end ModuleContainers.Document.Yaml
