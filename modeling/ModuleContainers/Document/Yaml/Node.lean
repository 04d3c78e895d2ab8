import ModuleContainers.Document.Yaml.Layout

/-!
# YAML nodes

The structure of a YAML document: scalars, lists and mappings, each with the
properties written before it, and aliases, which refer to an anchored node. A
text holds one document at most (`ofTokens?`); an empty one stands for an empty
scalar.

An anchor is known by a number, the count of anchor names met before it. So a
name that is used again gets a number that the next new name gets too; of the
nodes with one number the last to start is the one that aliases mean
(`Node.anchored` lists them in that order).
-/

namespace ModuleContainers.Document.Yaml

/-- What is written before a node. -/
structure Properties where
  anchor? : Option Nat := none
  tag? : Option (List UInt8) := none
  deriving Repr, DecidableEq

namespace Properties

def isEmpty (properties : Properties) : Bool :=
  properties.anchor?.isNone && properties.tag?.isNone

end Properties

inductive Node where
  | alias (anchor : Nat)
  | scalar (properties : Properties) (content : String) (isPlain : Bool)
  | list (properties : Properties) (items : List Node)
  | fields (properties : Properties) (entries : List (Node × Node))
  deriving Repr

namespace Node

/-- The scalar that stands for a node left out. -/
def empty : Node := .scalar {} "" true

/-- The tag that keeps a node from being given another one. -/
def noTag : List UInt8 := ['!'.toNat.toUInt8]

/-- A scalar; the tag that says nothing is dropped. -/
def ofScalar (properties : Properties) (content : String) (isPlain : Bool) : Node :=
  let tag? := if properties.tag? = some noTag then none else properties.tag?
  .scalar { properties with tag? := tag? } content isPlain

/-! ## Anchors and size -/

def underAnchor (properties : Properties) (node : Node) : List (Nat × Node) :=
  (properties.anchor?.map fun anchor => (anchor, node)).toList

mutual

/-- The anchored nodes in a node, in the order in which they start. -/
def anchored : Node → List (Nat × Node)
  | .alias _ => []
  | .scalar properties content isPlain =>
      underAnchor properties (.scalar properties content isPlain)
  | .list properties items =>
      underAnchor properties (.list properties items) ++ anchoredItems items
  | .fields properties entries =>
      underAnchor properties (.fields properties entries) ++ anchoredEntries entries

def anchoredItems : List Node → List (Nat × Node)
  | [] => []
  | item :: rest => anchored item ++ anchoredItems rest

def anchoredEntries : List (Node × Node) → List (Nat × Node)
  | [] => []
  | (key, value) :: rest => anchored key ++ anchored value ++ anchoredEntries rest

end

mutual

/-- The size of a node: a collection counts twice, for its start and its end. -/
def size : Node → Nat
  | .alias _ => 1
  | .scalar _ _ _ => 1
  | .list _ items => 2 + sizeItems items
  | .fields _ entries => 2 + sizeEntries entries

def sizeItems : List Node → Nat
  | [] => 0
  | item :: rest => size item + sizeItems rest

def sizeEntries : List (Node × Node) → Nat
  | [] => 0
  | (key, value) :: rest => size key + size value + sizeEntries rest

end

end Node

/-! ## Reading nodes from tokens -/

abbrev Handles := List (String × List UInt8)

def asciiBytes (text : String) : List UInt8 := text.toList.map fun c => c.toNat.toUInt8

namespace Handles

def standard : Handles := [("!", asciiBytes "!"), ("!!", asciiBytes "tag:yaml.org,2002:")]

/-- The tag that a handle and a suffix stand for. A tag without a handle is
written out. -/
def resolve (handles : Handles) (name : String) (suffix : List UInt8) : Option (List UInt8) :=
  if name = "" then some suffix
  else ((handles ++ standard).lookup name).map fun meaning => meaning ++ suffix

end Handles

structure Progress where
  tokens : List Token
  /-- The number of each anchor name met so far. -/
  anchors : List (String × Nat) := []
  deriving Repr

abbrev Grammar := ReaderT Handles (StateT Progress Option)

/-- Where a node stands, which decides on the styles that it may have. -/
inductive Position where
  | inFlow
  | inBlock
  /-- As a key or value of a mapping in block style; a list there need not be
  indented. -/
  | inEntry
  deriving Repr, DecidableEq

namespace Grammar

def peek : Grammar (Option Token) := return (← get).tokens.head?

def advance : Grammar Unit :=
  modify fun progress => { progress with tokens := progress.tokens.drop 1 }

def nextIn (tokens : List Token) : Grammar Bool := do
  match ← peek with
  | some token => return tokens.contains token
  | none => return false

/-- Passes over a token if it is the next one. -/
def take (token : Token) : Grammar Bool := do
  if ← nextIn [token] then
    advance
    return true
  else return false

/-! ### Properties -/

/-- An anchor, if there is one. Its name stands for its number from here on. -/
def anchor? : Grammar (Option Nat) := do
  match ← peek with
  | some (.anchor name) =>
      advance
      let progress ← get
      let others := progress.anchors.filter fun known => known.1 != name
      set { progress with anchors := (name, progress.anchors.length) :: others }
      return some progress.anchors.length
  | _ => return none

def tag? : Grammar (Option (List UInt8)) := do
  match ← peek with
  | some (.tag name suffix) =>
      advance
      match (← read).resolve name suffix with
      | some tag => return some tag
      | none => failure
  | _ => return none

/-- An anchor and a tag, in either order. -/
def properties : Grammar Properties := do
  match ← anchor? with
  | some anchor => return ⟨some anchor, ← tag?⟩
  | none =>
      let tag ← tag?
      return ⟨← anchor?, tag⟩

/-! ### Nodes -/

/-- A node that is left out; only its properties can stand for it. -/
def leftOut (properties : Properties) : Grammar Node :=
  if properties.isEmpty then failure else return .scalar properties "" true

mutual

def node : Nat → Position → Grammar Node
  | 0, _ => failure
  | steps + 1, position => do
      if let some (.alias name) ← peek then
        advance
        match (← get).anchors.lookup name with
        | some anchor => return .alias anchor
        | none => failure
      else
        let properties ← properties
        match ← peek, position with
        | some (.scalar content isPlain), _ =>
            advance
            return .ofScalar properties content isPlain
        | some .flowListStart, _ =>
            advance
            return .list properties (← flowItems steps true)
        | some .flowFieldsStart, _ =>
            advance
            return .fields properties (← flowEntries steps true)
        | some .item, .inEntry => return .list properties (← looseItems steps)
        | some .blockList, .inBlock | some .blockList, .inEntry =>
            advance
            return .list properties (← blockItems steps)
        | some .blockFields, .inBlock | some .blockFields, .inEntry =>
            advance
            return .fields properties (← blockEntries steps)
        | _, _ => leftOut properties

/-- A node unless one of the given tokens comes next, which leave it out. -/
def nodeUnless : Nat → List Token → Position → Grammar Node
  | 0, _, _ => failure
  | steps + 1, tokens, position => do
      if ← nextIn tokens then return .empty else node steps position

def blockItems : Nat → Grammar (List Node)
  | 0 => failure
  | steps + 1 => do
      if ← take .blockEnd then return []
      else if ← take .item then
        let first ← nodeUnless steps [.item, .blockEnd] .inBlock
        return first :: (← blockItems steps)
      else failure

/-- The items of a list that is not indented. It ends without a token. -/
def looseItems : Nat → Grammar (List Node)
  | 0 => failure
  | steps + 1 => do
      if ← take .item then
        let first ← nodeUnless steps [.item, .key, .value, .blockEnd] .inBlock
        return first :: (← looseItems steps)
      else return []

def blockEntries : Nat → Grammar (List (Node × Node))
  | 0 => failure
  | steps + 1 => do
      if ← take .blockEnd then return []
      else if ← take .key then
        let key ← nodeUnless steps [.key, .value, .blockEnd] .inEntry
        let value ← valueUnless steps [.key, .value, .blockEnd] .inEntry
        return (key, value) :: (← blockEntries steps)
      else failure

/-- The value of an entry, which may be left out together with its colon. -/
def valueUnless : Nat → List Token → Position → Grammar Node
  | 0, _, _ => failure
  | steps + 1, tokens, position => do
      if ← take .value then nodeUnless steps tokens position else return .empty

/-- The items of a list in flow style. A key makes its item a mapping with one
entry; a key that is left out takes the next token with it. -/
def flowItems : Nat → Bool → Grammar (List Node)
  | 0, _ => failure
  | steps + 1, first => do
      if ← take .flowListEnd then return []
      if !first then
        if !(← take .comma) then failure
      if ← take .flowListEnd then return []
      else if ← take .key then
        let key ←
          if ← nextIn [.value, .comma, .flowListEnd] then do
            advance
            pure Node.empty
          else node steps .inFlow
        let value ← valueUnless steps [.comma, .flowListEnd] .inFlow
        return .fields {} [(key, value)] :: (← flowItems steps false)
      else
        let item ← node steps .inFlow
        return item :: (← flowItems steps false)

def flowEntries : Nat → Bool → Grammar (List (Node × Node))
  | 0, _ => failure
  | steps + 1, first => do
      if ← take .flowFieldsEnd then return []
      if !first then
        if !(← take .comma) then failure
      if ← take .flowFieldsEnd then return []
      else if ← take .key then
        let key ← nodeUnless steps [.value, .comma, .flowFieldsEnd] .inFlow
        let value ← valueUnless steps [.comma, .flowFieldsEnd] .inFlow
        return (key, value) :: (← flowEntries steps false)
      else
        let key ← node steps .inFlow
        return (key, .empty) :: (← flowEntries steps false)

end

/-! ### Documents -/

def isKnownVersion (major minor : Nat) : Bool := major == 1 && (minor == 1 || minor == 2)

/-- The directives before a document: no two of them may say the same. -/
def directives : List Token → Bool → Handles → Option (Handles × List Token)
  | .version major minor :: rest, versioned, handles =>
      if versioned = true ∨ ¬isKnownVersion major minor then none
      else directives rest true handles
  | .handle name meaning :: rest, versioned, handles =>
      if (handles.lookup name).isSome then none
      else directives rest versioned (handles ++ [(name, meaning)])
  | rest, _, handles => some (handles, rest)

def run (handles : Handles) (tokens : List Token) : Option (Node × List Token) :=
  (StateT.run (node (4 * tokens.length + 4) .inBlock handles) ⟨tokens, []⟩).map
    fun (node, progress) => (node, progress.tokens)

/-- The contents of a document whose start is marked may be missing. -/
def contents (handles : Handles) (tokens : List Token) : Option (Node × List Token) :=
  match tokens with
  | [] | .version .. :: _ | .handle .. :: _ | .documentStart :: _ | .documentEnd :: _ =>
      some (.empty, tokens)
  | _ => run handles tokens

def document : List Token → Option (Node × List Token)
  | [] => some (.empty, [])
  | .version major minor :: rest => explicit (.version major minor :: rest)
  | .handle name meaning :: rest => explicit (.handle name meaning :: rest)
  | .documentStart :: rest => explicit (.documentStart :: rest)
  | tokens => run [] tokens
where
  explicit (tokens : List Token) : Option (Node × List Token) := do
    let (handles, rest) ← directives tokens false []
    match rest with
    | .documentStart :: rest => contents handles rest
    | _ => none

end Grammar

/-- The document that tokens make up. Nothing but marks of its end may follow. -/
def Node.ofTokens? (tokens : List Token) : Option Node := do
  let (node, rest) ← Grammar.document tokens
  if rest.all (· == .documentEnd) then some node else none

end ModuleContainers.Document.Yaml
