import ModuleContainers.Document.Datum
import ModuleContainers.Document.Words
import ModuleContainers.Text.Printable

/-!
# Reading typed values out of documents

Metadata and configuration are records, lists, choices and texts. This module
reads such values out of a `Datum` and says what is wrong with one that does not
fit: the first bad value met is reported, and only a record whose values are all
good is searched for missing fields, in the order in which it declares them.

The document formats differ in a few rules (`Rules`): whether a record may be
written as a list, whether a choice is written as a key or as a tag, whether
nothing stands for an empty list. The rest is the same for all of them.

A `Record` is built from its fields with `<*>`; it knows their names, how to
check the value of each, and how to assemble the record.
-/

namespace ModuleContainers.Document

open ModuleContainers.Text (quoted)

/-! ## What can be wrong -/

/-- What a reader expected to find. -/
inductive Expected where
  | text
  | boolean
  | int32
  | unit
  | list
  | record (name : String)
  /-- A record written as a list of its fields. -/
  | recordOf (name : String) (fields : Nat)
  | choice
  | choiceKey
  | choiceContent
  | fewerItems
  | fieldName
  deriving Repr, DecidableEq

/-- What it found instead. -/
inductive Found where
  | null
  | bool (value : Bool)
  | int (value : Int)
  | float (value : Binary64)
  | text (value : String)
  | list
  | fields
  | tagged
  | bareChoice
  deriving Repr, DecidableEq

inductive ReadError where
  | wrongType (found : Found) (expected : Expected)
  | wrongValue (found : Found) (expected : Expected)
  | wrongLength (length : Nat) (expected : Expected)
  | missingField (name : String)
  | repeatedField (name : String)
  | unknownField (name : String) (known : List String)
  | unknownChoice (name : String) (known : List String)
  /-- No alternative of a type without a discriminating key fits. -/
  | noAlternative (typeName : String)
  deriving Repr, DecidableEq

namespace Expected

def words : Expected → String
  | .text => "a string"
  | .boolean => "a boolean"
  | .int32 => "i32"
  | .unit => "unit"
  | .list => "a sequence"
  | .record name => "struct " ++ name
  | .recordOf name fields =>
      "struct " ++ name ++ " with " ++ toString fields ++ " element"
        ++ (if fields = 1 then "" else "s")
  | .choice => "string or map"
  | .choiceKey => "map with a single key"
  | .choiceContent => "newtype variant"
  | .fewerItems => "fewer elements in array"
  | .fieldName => "field identifier"

end Expected

namespace Found

/-- What a datum is, for a message. -/
def ofDatum : Datum → Found
  | .null => .null
  | .bool b => .bool b
  | .int n => .int n
  | .float x => .float x
  | .text s => .text s
  | .list _ => .list
  | .fields _ => .fields
  | .tagged _ _ => .tagged

def words : Found → String
  | .null => "null"
  | .bool b => "boolean `" ++ (if b then "true" else "false") ++ "`"
  | .int n => "integer `" ++ toString n ++ "`"
  | .float x => "floating point `" ++ x.toText ++ "`"
  | .text s => "string " ++ quoted s
  | .list => "sequence"
  | .fields => "map"
  | .tagged => "enum"
  | .bareChoice => "unit variant"

end Found

namespace ReadError

def ticked (name : String) : String := "`" ++ name ++ "`"

def oneOf : List String → String
  | [a] => ticked a
  | [a, b] => ticked a ++ " or " ++ ticked b
  | names => "one of " ++ String.intercalate ", " (names.map ticked)

def message : ReadError → String
  | .wrongType found expected =>
      "invalid type: " ++ found.words ++ ", expected " ++ expected.words
  | .wrongValue found expected =>
      "invalid value: " ++ found.words ++ ", expected " ++ expected.words
  | .wrongLength length expected =>
      "invalid length " ++ toString length ++ ", expected " ++ expected.words
  | .missingField name => "missing field " ++ ticked name
  | .repeatedField name => "duplicate field " ++ ticked name
  | .unknownField name known => "unknown field " ++ ticked name ++ ", expected " ++ oneOf known
  | .unknownChoice name known => "unknown variant " ++ ticked name ++ ", expected " ++ oneOf known
  | .noAlternative typeName => "data did not match any variant of untagged enum " ++ typeName

end ReadError

/-! ## The rules of a format -/

/-- Where the document formats differ. -/
structure Rules where
  /-- A record may be written as the list of its fields in order. -/
  recordsAsLists : Bool
  /-- Such a list may go on after the last field. -/
  surplusItems : Bool
  /-- Nothing at all stands for an empty list and for a record without entries. -/
  nullIsEmpty : Bool
  /-- A choice with content is a tag on that content, not a mapping with one key. -/
  choicesByTag : Bool
  /-- A whole number as a key names a field, or a choice, by its position. -/
  keysByPosition : Bool
  deriving Repr, DecidableEq

namespace Rules

def json : Rules := ⟨true, false, false, false, false⟩

def yaml : Rules := ⟨false, false, true, true, false⟩

def toml : Rules := ⟨true, true, false, false, false⟩

/-- A value whose type only its own form tells, in any document. -/
def selfDescribed : Rules := ⟨true, false, false, false, true⟩

/-- Tags that carry no choice mean nothing to a format that writes choices as
tags, and are dropped. -/
def plain (rules : Rules) (value : Datum) : Datum :=
  if rules.choicesByTag then value.untag else value

def keyName (rules : Rules) (names : List String) (key : Datum) : Except ReadError (Option String) :=
  match rules.plain key with
  | .text name => .ok (some name)
  | .int n =>
      if rules.keysByPosition ∧ 0 ≤ n then .ok names[n.toNat]?
      else .error (.wrongType (.int n) .fieldName)
  | other => .error (.wrongType (.ofDatum other) .fieldName)

end Rules

/-- How values of a type are read from a datum. -/
abbrev Reader (α : Type) := Rules → Datum → Except ReadError α

namespace Reader

variable {α : Type}

/-! ## Simple values -/

def text : Reader String := fun rules value =>
  match rules.plain value with
  | .text s => .ok s
  | other => .error (.wrongType (.ofDatum other) .text)

def boolean : Reader Bool := fun rules value =>
  match rules.plain value with
  | .bool b => .ok b
  | other => .error (.wrongType (.ofDatum other) .boolean)

/-- An integer of 32 bits with a sign. -/
def int32 : Reader Int32 := fun rules value =>
  match rules.plain value with
  | .int n =>
      if isSigned 32 n then .ok (Int32.ofInt n)
      else .error (.wrongValue (.int n) .int32)
  | other => .error (.wrongType (.ofDatum other) .int32)

def optional (read : Reader α) : Reader (Option α) := fun rules value =>
  match value with
  | .null => .ok none
  | value => (read rules value).map some

def list (read : Reader α) : Reader (List α) := fun rules value =>
  match rules.plain value with
  | .list items => items.mapM (read rules)
  | .null => if rules.nullIsEmpty then .ok [] else .error (.wrongType .null .list)
  | other => .error (.wrongType (.ofDatum other) .list)

/-! ## Choices -/

/-- Nothing, as the content of a choice without content. -/
def unit : Reader Unit := fun rules value =>
  match rules.plain value with
  | .null => .ok ()
  | other => .error (.wrongType (.ofDatum other) .unit)

inductive Alternative (α : Type) where
  | bare (value : α)
  | carrying (read : Reader α)

def Alternative.read : Alternative α → Rules → Option Datum → Except ReadError α
  | .bare value, _, none => .ok value
  | .bare value, rules, some content => (unit rules content).map fun _ => value
  | .carrying _, _, none => .error (.wrongType .bareChoice .choiceContent)
  | .carrying read, rules, some content => read rules content

/-- The name of a choice and its content, if it has one. -/
def choiceParts (rules : Rules) (names : List String) :
    Datum → Except ReadError (Option String × Option Datum)
  | .text name => .ok (some name, none)
  | .tagged tag content =>
      if rules.choicesByTag then .ok (some (Datum.tagName tag), some content)
      else .error (.wrongType .tagged .choice)
  | .fields [(key, content)] =>
      if rules.choicesByTag then .error (.wrongType .fields .choice)
      else (rules.keyName names key).map fun name => (name, some content)
  | .fields _ =>
      if rules.choicesByTag then .error (.wrongType .fields .choice)
      else .error (.wrongValue .fields .choiceKey)
  | other => .error (.wrongType (.ofDatum other) .choice)

def choice (alternatives : List (String × Alternative α)) : Reader α := fun rules value => do
  let names := alternatives.map Prod.fst
  let (name, content) ← choiceParts rules names value
  let name := name.getD ""
  match alternatives.lookup name with
  | some alternative => alternative.read rules content
  | none => throw (.unknownChoice name names)

end Reader

/-! ## Records -/

/-- Where the fields of a record come from: the datum of a field, by its
position and name, and the error for a field that has to be there and is not. -/
structure FieldSource where
  get? : Nat → String → Option Datum
  absent : Nat → String → ReadError

/-- A record type as a document writes it. -/
structure Record (α : Type) where
  /-- The fields, in the order in which they are declared. -/
  names : List String
  /-- What is wrong with the value of a field, by the field's name. -/
  check : Rules → String → Datum → Except ReadError Unit
  /-- Puts the record together; the first field has the given position. -/
  assemble : Rules → FieldSource → Nat → Except ReadError α

namespace Record

variable {α β : Type}

def pure (value : α) : Record α where
  names := []
  check := fun _ _ _ => .ok ()
  assemble := fun _ _ _ => .ok value

/-- A field; without a value for its absence it has to be there. -/
def field (name : String) (read : Reader α) (default? : Option α) : Record α where
  names := [name]
  check := fun rules key value =>
    if key = name then (read rules value).map fun _ => () else .ok ()
  assemble := fun rules source position =>
    match source.get? position name with
    | some value => read rules value
    | none =>
        match default? with
        | some value => .ok value
        | none => .error (source.absent position name)

def required (name : String) (read : Reader α) : Record α := field name read none

def defaulted (name : String) (read : Reader α) (default : α) : Record α :=
  field name read (some default)

/-- The fields of one record and then those of another. -/
def seq (f : Record (α → β)) (x : Record α) : Record β where
  names := f.names ++ x.names
  check := fun rules key value => do
    f.check rules key value
    x.check rules key value
  assemble := fun rules source position => do
    let g ← f.assemble rules source position
    let a ← x.assemble rules source (position + f.names.length)
    return g a

instance : Pure Record := ⟨Record.pure⟩

instance : Seq Record := ⟨fun f x => seq f (x ())⟩

/-- The entries of a mapping under the names of the fields they stand for;
entries for no field are dropped, or refused when the record is closed. -/
def entriesOf (record : Record α) (closed : Bool) (rules : Rules) :
    List String → List (Datum × Datum) → Except ReadError (List (String × Datum))
  | _, [] => .ok []
  | seen, (key, value) :: rest => do
      let name? ← rules.keyName record.names key
      let name := name?.getD ""
      if name ∈ record.names then
        if name ∈ seen then throw (.repeatedField name)
        record.check rules name value
        let others ← entriesOf record closed rules (name :: seen) rest
        return (name, value) :: others
      else if closed then throw (.unknownField name record.names)
      else entriesOf record closed rules seen rest

def ofEntries (record : Record α) (closed : Bool) (rules : Rules)
    (entries : List (Datum × Datum)) : Except ReadError α := do
  let found ← record.entriesOf closed rules [] entries
  record.assemble rules ⟨fun _ name => found.lookup name, fun _ name => .missingField name⟩ 0

def ofItems (record : Record α) (typeName : String) (rules : Rules) (items : List Datum) :
    Except ReadError α := do
  let count := record.names.length
  let value ← record.assemble rules
    ⟨fun position _ => items[position]?,
      fun position _ => .wrongLength position (.recordOf typeName count)⟩ 0
  if items.length ≤ count ∨ rules.surplusItems = true then return value
  else throw (.wrongLength items.length .fewerItems)

/-- The reader of a record. A closed record refuses entries it does not know. -/
def reader (record : Record α) (typeName : String) (closed : Bool) : Reader α :=
  fun rules value =>
    match rules.plain value with
    | .fields entries => record.ofEntries closed rules entries
    | .null =>
        if rules.nullIsEmpty then record.ofEntries closed rules []
        else .error (.wrongType .null (.record typeName))
    | .list items =>
        if rules.recordsAsLists then record.ofItems typeName rules items
        else .error (.wrongType .list (.record typeName))
    | other => .error (.wrongType (.ofDatum other) (.record typeName))

end Record

end ModuleContainers.Document
