import ModuleContainers.Document.Yaml.Token

/-!
# The tokens of a YAML text

Indentation structures a YAML text, and a key is recognised only by the colon
after it. A `Layout` is the state of reading the tokens of a text: how the open
block collections are indented, and which token may turn out to be the first of
a key (`PossibleKey`) in the collection at hand and in those around it. When the
colon comes, the tokens that start the key, and the mapping if it is the first
key of one, are put before the tokens already read.

A possible key has to stand on one line and to be short; one that has to be a
key because of its indentation makes the text ill-formed when it is none.

`tokens?` gives the tokens of a text, or nothing when it has no such reading.
-/

namespace ModuleContainers.Document.Yaml

/-- A place where a key may have started. -/
structure PossibleKey where
  /-- How many tokens lie before it. -/
  position : Nat
  /-- The indentation leaves nothing else for it to be. -/
  required : Bool
  index : Nat
  line : Nat
  column : Nat
  deriving Repr, DecidableEq

structure Layout where
  cursor : Cursor
  /-- The tokens read so far, the last one first. -/
  read : List Token := []
  keyAllowed : Bool := true
  /-- The possible key of the innermost flow collection, or of the block
  collections outside any. -/
  key? : Option PossibleKey := none
  /-- The possible keys around that, one for each open flow collection. -/
  outerKeys : List (Option PossibleKey) := []
  /-- The column of the innermost block collection; outside any it is -1. -/
  indent : Int := -1
  /-- The columns of the block collections around that. -/
  outerIndents : List Int := []
  deriving Repr

namespace Layout

def inFlow (layout : Layout) : Bool := !layout.outerKeys.isEmpty

def column (layout : Layout) : Int := layout.cursor.column

/-! ## Tokens -/

def emit (layout : Layout) (token : Token) : Layout :=
  { layout with read := token :: layout.read }

def take (layout : Layout) (token : Token) (length : Nat) : Layout :=
  { layout.emit token with cursor := layout.cursor.skip length }

def takeTo (layout : Layout) (token : Token) (cursor : Cursor) : Layout :=
  { layout.emit token with cursor := cursor }

/-- Puts a token behind the first so many. -/
def insertAt (layout : Layout) (position : Nat) (token : Token) : Layout :=
  let (after, before) := layout.read.splitAt (layout.read.length - position)
  { layout with read := after ++ token :: before }

/-! ## Indentation -/

/-- Starts a block collection at a column that lies right of the open ones. Its
token goes behind the first so many. -/
def openBlock (layout : Layout) (column : Int) (position : Nat) (token : Token) : Layout :=
  if ¬layout.inFlow ∧ layout.indent < column then
    { layout.insertAt position token with
      indent := column
      outerIndents := layout.indent :: layout.outerIndents }
  else layout

/-- How many of the block collections, innermost first, lie right of a column. -/
def rightOf (column : Int) (indents : List Int) : Nat :=
  (indents.takeWhile fun indent => decide (column < indent)).length

def closeBlocks (layout : Layout) (column : Int) : Layout :=
  if layout.inFlow then layout
  else
    let indents := layout.indent :: layout.outerIndents
    let count := rightOf column indents
    { layout with
      read := List.replicate count .blockEnd ++ layout.read
      indent := (indents.drop count).headD (-1)
      outerIndents := (indents.drop count).drop 1 }

/-! ## Possible keys -/

/-- No key can have started before this place. Nothing if one had to. -/
def dropKey (layout : Layout) : Option Layout :=
  match layout.key? with
  | some key => if key.required then none else some { layout with key? := none }
  | none => some layout

def markKey (layout : Layout) : Option Layout :=
  if layout.keyAllowed then do
    let layout ← layout.dropKey
    let cursor := layout.cursor
    let required := !layout.inFlow && layout.indent == layout.column
    pure { layout with
      key? := some ⟨layout.read.length, required, cursor.index, cursor.line, cursor.column⟩ }
  else some layout

/-- How many characters may lie between the start of a key and its colon. -/
def longestKey : Nat := 1024

/-- A possible key is no longer one when its line has ended or it has become too
long. Nothing if it had to be one. -/
def keepFresh (cursor : Cursor) : Option PossibleKey → Option (Option PossibleKey)
  | none => some none
  | some key =>
      if cursor.line ≤ key.line ∧ cursor.index ≤ key.index + longestKey then some (some key)
      else if key.required then none
      else some none

def dropStaleKeys (layout : Layout) : Option Layout := do
  let key? ← keepFresh layout.cursor layout.key?
  let outerKeys ← layout.outerKeys.mapM (keepFresh layout.cursor)
  pure { layout with key? := key?, outerKeys := outerKeys }

/-! ## Between tokens -/

def byteOrderMark : Char := '\ufeff'

/-- Passes over blanks, comments and line ends. A tab is no blank where it could
be taken for indentation. After a line end a key may start in block style. -/
def skipBlanks : Nat → Layout → Layout
  | 0, layout => layout
  | steps + 1, layout =>
      let cursor := layout.cursor
      let cursor :=
        if cursor.column = 0 ∧ cursor.next = byteOrderMark then cursor.skip 1 else cursor
      let tabs := layout.inFlow || !layout.keyAllowed
      let cursor := cursor.dropWhile fun c => c == ' ' || (tabs && c == '\t')
      let cursor := if cursor.next = '#' then cursor.dropWhile (fun c => !isBreak c) else cursor
      if isBreak cursor.next then
        skipBlanks steps
          { layout with
            cursor := cursor.skipBreak
            keyAllowed := layout.keyAllowed || !layout.inFlow }
      else { layout with cursor := cursor }

/-! ## One token -/

/-- Closes all block collections; nothing can be a key across that. -/
def endBlocks (layout : Layout) : Option Layout := do
  let layout ← (layout.closeBlocks (-1)).dropKey
  pure { layout with keyAllowed := false }

def documentMark (layout : Layout) (token : Token) : Option Layout := do
  let layout ← layout.endBlocks
  pure (layout.take token 3)

def directive (layout : Layout) : Option Layout := do
  let layout ← layout.endBlocks
  let (token, cursor) ← Token.directive? layout.cursor
  pure (layout.takeTo token cursor)

def openFlow (layout : Layout) (token : Token) : Option Layout := do
  let layout ← layout.markKey
  let layout := { layout with
    key? := none
    outerKeys := layout.key? :: layout.outerKeys
    keyAllowed := true }
  pure (layout.take token 1)

def closeFlow (layout : Layout) (token : Token) : Option Layout := do
  let layout ← layout.dropKey
  let layout := { layout with
    key? := layout.outerKeys.headD none
    outerKeys := layout.outerKeys.drop 1
    keyAllowed := false }
  pure (layout.take token 1)

def comma (layout : Layout) : Option Layout := do
  let layout ← layout.dropKey
  pure ({ layout with keyAllowed := true }.take .comma 1)

/-- Opens a block collection at this place if it is the first of its items; in
block style an item may start only where a key may. -/
def openHere (layout : Layout) (token : Token) : Option Layout :=
  if ¬layout.inFlow ∧ ¬layout.keyAllowed then none
  else some (layout.openBlock layout.column layout.read.length token)

def item (layout : Layout) : Option Layout := do
  let layout ← layout.openHere .blockList
  let layout ← layout.dropKey
  pure ({ layout with keyAllowed := true }.take .item 1)

def explicitKey (layout : Layout) : Option Layout := do
  let layout ← layout.openHere .blockFields
  let layout ← layout.dropKey
  pure ({ layout with keyAllowed := !layout.inFlow }.take .key 1)

def value (layout : Layout) : Option Layout :=
  match layout.key? with
  | some key =>
      let layout := layout.insertAt key.position .key
      let layout := layout.openBlock key.column key.position .blockFields
      some ({ layout with key? := none, keyAllowed := false }.take .value 1)
  | none => do
      let layout ← layout.openHere .blockFields
      pure ({ layout with keyAllowed := !layout.inFlow }.take .value 1)

/-- A token that may be a key and after which none starts on the same line. -/
def word (layout : Layout) (read : Cursor → Option (Token × Cursor)) : Option Layout := do
  let layout ← layout.markKey
  let (token, cursor) ← read layout.cursor
  pure ({ layout with keyAllowed := false }.takeTo token cursor)

def named (layout : Layout) (token : String → Token) : Option Layout :=
  layout.word fun cursor => (Token.name? cursor).map fun (name, after) => (token name, after)

def quoted (layout : Layout) (single : Bool) : Option Layout :=
  layout.word fun cursor =>
    (quotedScalar single cursor).map fun (content, after) => (.scalar content false, after)

/-- A plain scalar. If it ends with its line, a key may start after it. -/
def plain (layout : Layout) : Option Layout := do
  let layout ← layout.markKey
  let (content, broken, cursor) ←
    plainScalar layout.inFlow (layout.indent + 1).toNat layout.cursor
  pure ({ layout with keyAllowed := broken }.takeTo (.scalar content true) cursor)

def block (layout : Layout) (literal : Bool) : Option Layout := do
  let layout ← layout.dropKey
  let (content, cursor) ← blockScalar literal layout.indent layout.cursor
  pure ({ layout with keyAllowed := true }.takeTo (.scalar content false) cursor)

def isIndicator (c : Char) : Bool :=
  isFlowDelimiter c || isWordEnd c
    || ['-', '?', ':', '#', '&', '*', '!', '|', '>', '\'', '"', '%', '@', Char.ofNat 0x60].contains c

def startsPlain (flow : Bool) (c after : Char) : Bool :=
  !isIndicator c || (c == '-' && !isBlank after)
    || (!flow && (c == '?' || c == ':') && !isWordEnd after)

def token (layout : Layout) : Option Layout :=
  let cursor := layout.cursor
  let c := cursor.next
  let flow := layout.inFlow
  let alone := isWordEnd (cursor.peek 1)
  if cursor.column = 0 ∧ c = '%' then layout.directive
  else if cursor.atMark '-' then layout.documentMark .documentStart
  else if cursor.atMark '.' then layout.documentMark .documentEnd
  else if c = '[' then layout.openFlow .flowListStart
  else if c = '\x7b' then layout.openFlow .flowFieldsStart
  else if c = ']' then layout.closeFlow .flowListEnd
  else if c = '\x7d' then layout.closeFlow .flowFieldsEnd
  else if c = ',' then layout.comma
  else if c = '-' ∧ alone then layout.item
  else if c = '?' ∧ (flow ∨ alone) then layout.explicitKey
  else if c = ':' ∧ (flow ∨ alone) then layout.value
  else if c = '*' then layout.named .alias
  else if c = '&' then layout.named .anchor
  else if c = '!' then layout.word (Token.tag? flow)
  else if c = '|' ∧ ¬flow then layout.block true
  else if c = '>' ∧ ¬flow then layout.block false
  else if c = '\'' then layout.quoted true
  else if c = '"' then layout.quoted false
  else if startsPlain flow c (cursor.peek 1) then layout.plain
  else none

/-! ## All tokens -/

/-- The end of the text, which is also the end of its last line. -/
def finish (layout : Layout) : Option (List Token) :=
  layout.endBlocks.map fun layout => layout.read.reverse

def run : Nat → Layout → Option (List Token)
  | 0, _ => none
  | steps + 1, layout => do
      let layout := layout.skipBlanks (layout.cursor.rest.length + 1)
      let layout ← layout.dropStaleKeys
      let layout := layout.closeBlocks layout.column
      if layout.cursor.atEnd then layout.finish
      else
        let layout ← layout.token
        run steps layout

end Layout

def tokens? (text : String) : Option (List Token) :=
  let chars := text.toList
  let chars := if chars.head? = some Layout.byteOrderMark then chars.drop 1 else chars
  if chars.all isAllowed then (Layout.mk ⟨chars, 0, 0, 0⟩ [] true none [] (-1) []).run (chars.length + 1)
  else none

end ModuleContainers.Document.Yaml
