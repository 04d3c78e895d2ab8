import ModuleContainers.Document.Yaml.Node
import ModuleContainers.Document.Yaml.Scalar

/-!
# Reading YAML documents

`read?` gives the value of a YAML text, or nothing when the text is not well
formed. Aliases are replaced by what they refer to. Collections may lie in one
another only so deep, and aliases may be followed only so often, which bounds the
size of the value.

A tag that starts with an exclamation mark is part of the value. Other tags say
what a scalar is, and mean nothing on a collection.
-/

namespace ModuleContainers.Document.Yaml

/-- How deep collections may lie in one another. -/
def deepest : Nat := 128

/-- How many aliases may be followed for each unit of a document's size. -/
def aliasesPerSize : Nat := 100

def tagText? (tag : List UInt8) : Option String := String.fromUTF8? ⟨tag.toArray⟩

def isOwnTag (tag : List UInt8) : Bool := tag.head? == some '!'.toNat.toUInt8

/-- The tag of a value, without the exclamation mark that starts it; alone the
mark is kept. -/
def ownTag? (tag? : Option (List UInt8)) : Option String := do
  let tag ← tag?
  if isOwnTag tag then tagText? (if tag.length = 1 then tag else tag.drop 1) else none

def scalar? (tag? : Option (List UInt8)) (content : String) (isPlain : Bool) : Option Datum :=
  match tag? with
  | none => untagged? content isPlain
  | some tag =>
      if isOwnTag tag then untagged? content isPlain
      else standardTagged? ((tagText? tag).getD "") content

def withTag (tag? : Option (List UInt8)) (value : Datum) : Datum :=
  match ownTag? tag? with
  | some tag => .tagged tag value
  | none => value

/-- Puts the entries of a mapping together; no key may occur twice. -/
def distinct? : List (Datum × Datum) → List (Datum × Datum) → Option (List (Datum × Datum))
  | seen, [] => some seen
  | seen, entry :: rest =>
      if Datum.isKey entry.1 seen then none else distinct? (seen ++ [entry]) rest

/-- Reads values; the state is the number of aliases that may still be
followed. -/
abbrev Unfold := StateT Nat Option

/-- The node that an alias refers to; any other node is itself. -/
def follow (anchors : List (Nat × Node)) : Node → Unfold Node
  | .alias anchor => do
      let left ← get
      if left = 0 then failure
      set (left - 1)
      match anchors.lookup anchor with
      | some node => return node
      | none => failure
  | node => return node

/-- The value of a node. `anchors` has the last node to start first. -/
def value (anchors : List (Nat × Node)) : Nat → Node → Unfold Datum
  | depth, node => do
      match ← follow anchors node, depth with
      | .scalar properties content isPlain, _ =>
          match scalar? properties.tag? content isPlain with
          | some datum => return withTag properties.tag? datum
          | none => failure
      | .list properties items, depth + 1 =>
          let items ← items.mapM (value anchors depth)
          return withTag properties.tag? (.list items)
      | .fields properties entries, depth + 1 =>
          let entries ← entries.mapM fun (key, item) =>
            return (← value anchors depth key, ← value anchors depth item)
          match distinct? [] entries with
          | some entries => return withTag properties.tag? (.fields entries)
          | none => failure
      | _, _ => failure

def read? (text : String) : Option Datum := do
  let tokens ← tokens? text
  let node ← Node.ofTokens? tokens
  let (datum, _) ← (value node.anchored.reverse deepest node).run (aliasesPerSize * node.size)
  pure datum

end ModuleContainers.Document.Yaml
