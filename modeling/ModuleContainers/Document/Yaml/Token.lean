import ModuleContainers.Document.Yaml.ScalarText

/-!
# YAML tokens

The words of a YAML text. Collections in block style are written by indentation;
their begin and end are tokens all the same (`blockList`, `blockFields`,
`blockEnd`), so that a list of tokens says everything about the structure.

The readers of names, tags and directives are here. Each gives the token and the
place after it, or nothing when the text is not well formed.
-/

namespace ModuleContainers.Document.Yaml

inductive Token where
  | version (major minor : Nat)
  /-- A handle for tags and what it stands for. -/
  | handle (name : String) (meaning : List UInt8)
  | documentStart
  | documentEnd
  | blockList
  | blockFields
  | blockEnd
  | flowListStart
  | flowListEnd
  | flowFieldsStart
  | flowFieldsEnd
  | item
  | comma
  | key
  | value
  | alias (name : String)
  | anchor (name : String)
  | tag (handle : String) (suffix : List UInt8)
  | scalar (content : String) (isPlain : Bool)
  deriving Repr, DecidableEq

namespace Token

/-! ## Anchors and aliases -/

/-- A character that may follow a name without a blank. -/
def mayFollowName (c : Char) : Bool :=
  isWordEnd c || ['?', ':', ',', ']', '\x7d', '%', '@', Char.ofNat 0x60].contains c

def name? (cursor : Cursor) : Option (String × Cursor) :=
  let (name, cursor) := (cursor.skip 1).takeWhile isNameChar
  if name ≠ [] ∧ mayFollowName cursor.next then some (String.ofList name, cursor) else none

/-! ## Tags -/

def isUriChar (c : Char) : Bool :=
  isNameChar c
    || [';', '/', '?', ':', '@', '&', '=', '+', '$', '.', '%', '!', '~', '*', '\'', '(', ')'].contains c

/-- A character of URIs that is a delimiter elsewhere. -/
def isUriDelimiter (c : Char) : Bool := c == ',' || c == '[' || c == ']'

/-- A byte written as a percent sign and two hexadecimal digits. -/
def escapedByte? (cursor : Cursor) : Option (Nat × Cursor) :=
  match cursor.rest with
  | '%' :: high :: low :: _ => (hexNumber [high, low]).map fun byte => (byte, cursor.skip 3)
  | _ => none

def bytesAfter (first : Nat) : Option Nat :=
  if first < 0x80 then some 0
  else if first < 0xC0 then none
  else if first < 0xE0 then some 1
  else if first < 0xF0 then some 2
  else if first < 0xF8 then some 3
  else none

def escapedRest? : Nat → Cursor → Option (List UInt8 × Cursor)
  | 0, cursor => some ([], cursor)
  | count + 1, cursor => do
      let (byte, cursor) ← escapedByte? cursor
      if byte < 0x80 ∨ 0xC0 ≤ byte then none
      let (bytes, cursor) ← escapedRest? count cursor
      pure (byte.toUInt8 :: bytes, cursor)

def escapedChar? (cursor : Cursor) : Option (List UInt8 × Cursor) := do
  let (first, cursor) ← escapedByte? cursor
  let count ← bytesAfter first
  let (bytes, cursor) ← escapedRest? count cursor
  pure (first.toUInt8 :: bytes, cursor)

/-- The bytes of a URI up to the first character that is not one of its
characters. Delimiters count only where nothing delimits the URI but its end. -/
def uriBytes (delimiters : Bool) : Nat → Cursor → Option (List UInt8 × Cursor)
  | 0, cursor => some ([], cursor)
  | steps + 1, cursor =>
      let c := cursor.next
      if c = '%' then do
        let (bytes, cursor) ← escapedChar? cursor
        let (more, cursor) ← uriBytes delimiters steps cursor
        pure (bytes ++ more, cursor)
      else if isUriChar c ∨ (delimiters = true ∧ isUriDelimiter c) then do
        let (more, cursor) ← uriBytes delimiters steps (cursor.skip 1)
        pure (c.toNat.toUInt8 :: more, cursor)
      else some ([], cursor)

def uri? (delimiters : Bool) (cursor : Cursor) : Option (List UInt8 × Cursor) :=
  uriBytes delimiters (cursor.rest.length + 1) cursor

/-- What stands before a tag's suffix: an exclamation mark, name characters and
perhaps another exclamation mark. -/
def handleText (cursor : Cursor) : List Char × Cursor :=
  let (name, after) := (cursor.skip 1).takeWhile isNameChar
  if after.next = '!' then ('!' :: name ++ ['!'], after.skip 1) else ('!' :: name, after)

/-- A tag without the check of what follows it. -/
def tagBody? (cursor : Cursor) : Option (Token × Cursor) :=
  if cursor.peek 1 = '<' then do
    let (suffix, cursor) ← uri? true (cursor.skip 2)
    if suffix = [] ∨ cursor.next ≠ '>' then none
    pure (.tag "" suffix, cursor.skip 1)
  else do
    let (start, cursor) := handleText cursor
    let (suffix, cursor) ← uri? false cursor
    if 2 ≤ start.length ∧ start.getLast? = some '!' then
      if suffix = [] then none
      pure (.tag (String.ofList start) suffix, cursor)
    else
      let suffix := (start.drop 1).map (fun c => c.toNat.toUInt8) ++ suffix
      if suffix = [] then pure (.tag "" ['!'.toNat.toUInt8], cursor)
      else pure (.tag "!" suffix, cursor)

/-- A tag, from its exclamation mark on. In flow style a comma may follow. -/
def tag? (flow : Bool) (cursor : Cursor) : Option (Token × Cursor) := do
  let (token, cursor) ← tagBody? cursor
  if isWordEnd cursor.next ∨ (flow = true ∧ cursor.next = ',') then pure (token, cursor) else none

/-! ## Directives -/

/-- A part of a version number, of nine digits at most. -/
def versionPart? (cursor : Cursor) : Option (Nat × Cursor) :=
  let (digits, cursor) := cursor.takeWhile Char.isDigit
  if digits ≠ [] ∧ digits.length ≤ 9 then
    some (digits.foldl (fun n d => n * 10 + (d.toNat - '0'.toNat)) 0, cursor)
  else none

def version? (cursor : Cursor) : Option (Token × Cursor) := do
  let (major, cursor) ← versionPart? cursor
  if cursor.next ≠ '.' then none
  let (minor, cursor) ← versionPart? (cursor.skip 1)
  pure (.version major minor, cursor)

def handle? (cursor : Cursor) : Option (Token × Cursor) := do
  if cursor.next ≠ '!' then none
  let (start, cursor) := handleText cursor
  if start ≠ ['!'] ∧ start.getLast? ≠ some '!' then none
  if ¬isBlank cursor.next then none
  let (meaning, cursor) ← uri? true (cursor.dropWhile isBlank)
  if meaning = [] ∨ ¬isWordEnd cursor.next then none
  pure (.handle (String.ofList start) meaning, cursor)

def directive? (cursor : Cursor) : Option (Token × Cursor) := do
  let (name, cursor) := (cursor.skip 1).takeWhile isNameChar
  if ¬isWordEnd cursor.next then none
  let cursor := cursor.dropWhile isBlank
  let (token, cursor) ←
    if name = "YAML".toList then version? cursor
    else if name = "TAG".toList then handle? cursor
    else none
  let cursor ← cursor.lineEnd?
  pure (token, cursor)

end Token

end ModuleContainers.Document.Yaml
