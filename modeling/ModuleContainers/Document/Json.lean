import ModuleContainers.Document.Binary64

/-!
# JSON values

A JSON object maps each of its keys to one value. It is held as a list of
entries in ascending order of their keys, so that two objects are the same
mapping exactly when they are the same list; `Json.insert` keeps that order and
lets the later of two equal keys win.
-/

namespace ModuleContainers.Document

/-- A JSON value. Integers of 64 bits are kept as integers, all other numbers
are floating-point numbers. -/
inductive Json where
  | null
  | bool (value : Bool)
  | int (value : Int)
  | float (value : Binary64)
  | text (value : String)
  | list (items : List Json)
  | object (entries : List (String × Json))
  deriving Repr

namespace Json

/-- Adds an entry at its place in the order of the keys, or replaces the value
of its key. -/
def insert (key : String) (value : Json) : List (String × Json) → List (String × Json)
  | [] => [(key, value)]
  | (k, v) :: rest =>
      if key < k then (key, value) :: (k, v) :: rest
      else if key = k then (key, value) :: rest
      else (k, v) :: insert key value rest

/-- The object with the given entries; of two entries with one key the later one
counts. -/
def ofEntries (entries : List (String × Json)) : Json :=
  .object (entries.foldl (fun object entry => insert entry.1 entry.2 object) [])

def get? : Json → String → Option Json
  | .object entries, key => entries.lookup key
  | _, _ => none

def texts (items : List String) : Json := .list (items.map .text)

def ofOption : Option Json → Json
  | some value => value
  | none => .null

end Json

end ModuleContainers.Document
