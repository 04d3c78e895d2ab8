import ModuleContainers.Document.Json

/-!
# Data as documents hold them

The three document formats are read into one kind of value. A `Datum` knows more
than JSON does: the keys of a mapping need not be texts, and a value may carry a
tag. JSON values embed into it (`Datum.ofJson`).

Mappings keep the order of their entries. Two mappings with the same entries in
another order are the same value, and so are two tags that differ by a leading
exclamation mark (`Datum.same`).
-/

namespace ModuleContainers.Document

/-- A value of a document. -/
inductive Datum where
  | null
  | bool (value : Bool)
  | int (value : Int)
  | float (value : Binary64)
  | text (value : String)
  | list (items : List Datum)
  | fields (entries : List (Datum × Datum))
  | tagged (tag : String) (value : Datum)
  deriving Repr

namespace Datum

mutual

def ofJson : Json → Datum
  | .null => .null
  | .bool b => .bool b
  | .int n => .int n
  | .float x => .float x
  | .text s => .text s
  | .list items => .list (ofItems items)
  | .object entries => .fields (ofMembers entries)

def ofItems : List Json → List Datum
  | [] => []
  | item :: rest => ofJson item :: ofItems rest

def ofMembers : List (String × Json) → List (Datum × Datum)
  | [] => []
  | (key, item) :: rest => (.text key, ofJson item) :: ofMembers rest

end

/-! ## Tags -/

def untag : Datum → Datum
  | .tagged _ value => untag value
  | plain => plain

mutual

/-- Some value inside the datum carries a tag. -/
def hasTag : Datum → Bool
  | .tagged _ _ => true
  | .list items => anyTag items
  | .fields entries => anyEntryTag entries
  | _ => false

def anyTag : List Datum → Bool
  | [] => false
  | item :: rest => hasTag item || anyTag rest

def anyEntryTag : List (Datum × Datum) → Bool
  | [] => false
  | (key, value) :: rest => hasTag key || hasTag value || anyEntryTag rest

end

/-- A tag's name, without the exclamation mark that may introduce it; a tag that
is nothing else keeps it. -/
def tagName (tag : String) : String :=
  match tag.toList with
  | '!' :: c :: name => String.ofList (c :: name)
  | _ => tag

/-! ## Equality of keys -/

/-- Two floating-point numbers are one key. -/
def sameFloat (x y : Binary64) : Bool := x == y || (x.isZero && y.isZero)

mutual

def same : Datum → Datum → Bool
  | .null, .null => true
  | .bool a, .bool b => a == b
  | .int a, .int b => a == b
  | .float a, .float b => sameFloat a b
  | .text a, .text b => a == b
  | .list a, .list b => sameItems a b
  | .fields a, .fields b => a.length == b.length && sameEntries a b
  | .tagged t a, .tagged u b => tagName t == tagName u && same a b
  | _, _ => false

def sameItems : List Datum → List Datum → Bool
  | [], [] => true
  | a :: as, b :: bs => same a b && sameItems as bs
  | _, _ => false

/-- Every entry of the first mapping is an entry of the second. -/
def sameEntries : List (Datum × Datum) → List (Datum × Datum) → Bool
  | [], _ => true
  | (key, value) :: rest, others =>
      others.any (fun other => same key other.1 && same value other.2) && sameEntries rest others

end

def isKey (key : Datum) (entries : List (Datum × Datum)) : Bool :=
  entries.any fun entry => same key entry.1

end Datum

end ModuleContainers.Document
