import ModuleContainers.Document.Toml.Number
import ModuleContainers.Document.Toml.Table

/-!
# Reading TOML documents

A TOML text is a list of lines: entries, headers of tables, comments and nothing.
A value may go on over several lines, so lines are read one statement at a time.
`read?` gives the table that a text describes, or nothing when the text is not
well formed or defines something twice.

Every reader gives what it read and the characters after it.
-/

namespace ModuleContainers.Document.Toml

/-- How deep lists and tables within a value may lie in one another, and how long
a dotted key may be. -/
def deepest : Nat := 80

/-! ## Blanks, comments and lines -/

def skipBlanks (text : List Char) : List Char := text.dropWhile isBlank

def skipComment (text : List Char) : List Char :=
  if text.head? = some '#' then text.dropWhile isTextChar else text

/-- The end of a line or of the text, after blanks and perhaps a comment. -/
def lineEnd? (text : List Char) : Option (List Char) :=
  match skipComment (skipBlanks text) with
  | [] => some []
  | '\n' :: rest => some rest
  | _ => none

/-- Passes over blanks, comments and line ends between the items of a list. -/
def skipLines : Nat → List Char → Option (List Char)
  | 0, text => some text
  | steps + 1, text =>
      match skipBlanks text with
      | '\n' :: rest => skipLines steps rest
      | '#' :: rest =>
          match skipComment ('#' :: rest) with
          | '\n' :: rest => skipLines steps rest
          | _ => none
      | rest => some rest

/-! ## Keys -/

def isKeyChar (c : Char) : Bool := c.isAlphanum || c == '_' || c == '-'

def simpleKey? : List Char → Option (String × List Char)
  | '"' :: rest => lineString? '"' rest
  | '\'' :: rest => lineString? '\'' rest
  | text =>
      let name := text.takeWhile isKeyChar
      if name = [] then none else some (String.ofList name, text.dropWhile isKeyChar)

/-- The keys of a dotted key, with blanks around each. -/
def keyParts : Nat → List Char → Option (List String × List Char)
  | 0, _ => none
  | steps + 1, text => do
      let (first, rest) ← simpleKey? (skipBlanks text)
      match skipBlanks rest with
      | '.' :: rest => do
          let (others, rest) ← keyParts steps rest
          pure (first :: others, rest)
      | rest => pure ([first], rest)

def key? (text : List Char) : Option (List String × List Char) := do
  let (path, rest) ← keyParts (text.length + 1) text
  if path.length < deepest then some (path, rest) else none

/-! ## Values -/

def dropWord : List Char → List Char → Option (List Char)
  | [], rest => some rest
  | _ :: _, [] => none
  | w :: word, c :: rest => if w = c then dropWord word rest else none

mutual

def value? : Nat → Nat → List Char → Option (Datum × List Char)
  | 0, _, _ => none
  | steps + 1, depth, source =>
      match source with
      | '[' :: rest => if depth ≤ 1 then none else listItems steps (depth - 1) [] rest
      | '{' :: rest =>
          if depth ≤ 1 then none
          else match skipBlanks rest with
            | '}' :: rest => some (.fields [], rest)
            | rest => inlineEntries steps (depth - 1) [] rest
      | '"' :: _ | '\'' :: _ => (string? source).map fun (s, rest) => (.text s, rest)
      | 't' :: _ => (dropWord "true".toList source).map (.bool true, ·)
      | 'f' :: _ => (dropWord "false".toList source).map (.bool false, ·)
      | _ => numberOrDate? source

/-- The items of a list up to its closing bracket. A comma may follow the last
item. -/
def listItems : Nat → Nat → List Datum → List Char → Option (Datum × List Char)
  | 0, _, _, _ => none
  | steps + 1, depth, seen, source => do
      match ← skipLines (source.length + 1) source with
      | ']' :: rest => pure (.list seen.reverse, rest)
      | rest => do
          let (item, rest) ← value? steps depth rest
          match ← skipLines (rest.length + 1) rest with
          | ',' :: rest => listItems steps depth (item :: seen) rest
          | ']' :: rest => pure (.list (item :: seen).reverse, rest)
          | _ => none

/-- The entries of a table within a value up to its closing brace. They stand on
one line, and no comma follows the last one. -/
def inlineEntries : Nat → Nat → Entries → List Char → Option (Datum × List Char)
  | 0, _, _, _ => none
  | steps + 1, depth, seen, source => do
      let (path, rest) ← key? source
      let (item, rest) ← value? steps depth (skipBlanks (← after? '=' rest))
      let seen ← assign path item .header seen
      match skipBlanks rest with
      | ',' :: rest => inlineEntries steps depth seen rest
      | '}' :: rest => pure (.fields (finished seen), rest)
      | _ => none

end

/-! ## Documents -/

/-- The state of reading a document: its table so far, and the path of the table
whose header came last. -/
structure Progress where
  root : Entries := []
  current : List String := []

def header? (brackets : List Char) (text : List Char) : Option (List String × List Char) := do
  let (path, rest) ← key? text
  let rest ← dropWord brackets rest
  pure (path, ← lineEnd? rest)

/-- One line, and the further lines that its value takes. -/
def statement (progress : Progress) (text : List Char) : Option (Progress × List Char) :=
  match skipBlanks text with
  | [] => some (progress, [])
  | '\n' :: rest => some (progress, rest)
  | '#' :: rest => (lineEnd? ('#' :: rest)).map fun rest => (progress, rest)
  | '[' :: '[' :: rest => do
      let (path, rest) ← header? [']', ']'] rest
      pure (⟨← openItem path progress.root, path⟩, rest)
  | '[' :: rest => do
      let (path, rest) ← header? [']'] rest
      pure (⟨← openTable path progress.root, path⟩, rest)
  | rest => do
      let (path, rest) ← key? rest
      let rest ← after? '=' rest
      let (item, rest) ← value? (2 * rest.length + 2) deepest (skipBlanks rest)
      let rest ← lineEnd? rest
      let root ← change .implied (assign path item) progress.current .header progress.root
      pure ({ progress with root := root }, rest)

def statements : Nat → Progress → List Char → Option Progress
  | _, progress, [] => some progress
  | 0, _, _ => none
  | steps + 1, progress, text => do
      let (progress, rest) ← statement progress text
      statements steps progress rest

/-- The table that a TOML text describes. A byte order mark may start the
text. -/
def read? (text : String) : Option Datum := do
  let chars := unixLines text.toList
  let chars := if chars.head? = some '\ufeff' then chars.drop 1 else chars
  let progress ← statements (chars.length + 1) {} chars
  pure (.fields (finished progress.root))

end ModuleContainers.Document.Toml
