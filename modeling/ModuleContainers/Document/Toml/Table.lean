import ModuleContainers.Document.Datum

/-!
# TOML tables under construction

The entries of a TOML table may be written in several places, but each table is
defined in one way only: by a header, by dotted keys, or, so far, by nothing but
the headers of tables inside it. An `Item` keeps that apart. `assign` adds an
entry, `openTable` and `openItem` add what a header announces; each gives nothing
when the text defines something twice. `Item.datum` is the finished value.
-/

namespace ModuleContainers.Document.Toml

/-- How a table has been defined. -/
inductive Origin where
  /-- By its own header, or as the whole document. -/
  | header
  /-- By the headers of tables inside it. -/
  | implied
  /-- By dotted keys. -/
  | dotted
  deriving Repr, DecidableEq

/-- A value, a table, or a list of tables of which each has a header. -/
inductive Item where
  | value (datum : Datum)
  | table (origin : Origin) (entries : List (String × Item))
  | tables (items : List (List (String × Item)))

abbrev Entries := List (String × Item)

/-- Puts an item under a key; the key keeps its place. -/
def Entries.set (key : String) (item : Item) : Entries → Entries
  | [] => [(key, item)]
  | (known, other) :: rest =>
      if known = key then (key, item) :: rest else (known, other) :: set key item rest

/-! ## Changes along a path -/

/-- Changes the table at the end of a path. Of a list of tables the last one is
meant. A step that leads nowhere makes a table of the given origin. Dotted keys
do not lead into a table that has a header. -/
def change (made : Origin) (edit : Origin → Entries → Option Entries) :
    List String → Origin → Entries → Option Entries
  | [], origin, entries => edit origin entries
  | key :: path, _, entries =>
      match entries.lookup key with
      | none => do
          let inner ← change made edit path made []
          pure (entries.set key (.table made inner))
      | some (.table origin inner) =>
          if made = .dotted ∧ origin = .header then none
          else do
            let inner ← change made edit path origin inner
            pure (entries.set key (.table origin inner))
      | some (.tables items) =>
          match items.getLast? with
          | some last => do
              let last ← change made edit path .header last
              pure (entries.set key (.tables (items.dropLast ++ [last])))
          | none => none
      | some (.value _) => none

/-- Splits a path into the steps before the last key and that key. -/
def splitLast : List String → Option (List String × String)
  | [] => none
  | [key] => some ([], key)
  | first :: second :: rest =>
      (splitLast (second :: rest)).map fun (path, key) => (first :: path, key)

/-- Adds a value under a dotted key. A table that dotted keys lead to has to be
defined by them alone. -/
def assign (path : List String) (value : Datum) (origin : Origin) (entries : Entries) :
    Option Entries := do
  let (steps, key) ← splitLast path
  let add (origin : Origin) (entries : Entries) : Option Entries :=
    if (origin = .dotted) ≠ (steps ≠ []) ∨ (entries.lookup key).isSome then none
    else some (entries ++ [(key, .value value)])
  change .dotted add steps origin entries

/-- Adds a table that a header announces. It may be there already if only tables
inside it have had headers. -/
def openTable (path : List String) (root : Entries) : Option Entries := do
  let (steps, key) ← splitLast path
  let add (_ : Origin) (entries : Entries) : Option Entries :=
    match entries.lookup key with
    | none => some (entries ++ [(key, .table .header [])])
    | some (.table .implied inner) => some (entries.set key (.table .header inner))
    | some _ => none
  change .implied add steps .header root

def openItem (path : List String) (root : Entries) : Option Entries := do
  let (steps, key) ← splitLast path
  let add (_ : Origin) (entries : Entries) : Option Entries :=
    match entries.lookup key with
    | none => some (entries ++ [(key, .tables [[]])])
    | some (.tables items) => some (entries.set key (.tables (items ++ [[]])))
    | some _ => none
  change .implied add steps .header root

/-! ## Finished values -/

mutual

def Item.datum : Item → Datum
  | .value datum => datum
  | .table _ entries => .fields (finished entries)
  | .tables items => .list (finishedTables items)

def finished : List (String × Item) → List (Datum × Datum)
  | [] => []
  | (key, item) :: rest => (.text key, item.datum) :: finished rest

def finishedTables : List (List (String × Item)) → List Datum
  | [] => []
  | entries :: rest => .fields (finished entries) :: finishedTables rest

end

end ModuleContainers.Document.Toml
