import ModuleContainers.Document.Reading
import ModuleContainers.Proofs.Document.Json
import ModuleContainers.Proofs.Outcome

/-!
# Records that are written as JSON objects

What a document may say for a record is a matter of its fields: which values stand
for a field, and whether the field may be left out (`WrittenField`). An object
writes the record when it does so for each field; what else is in it does not
count (`Writes`). A record is read back from every object that writes it
(`Record.reader_eq_ok`). The condition for that is put together field by field,
just as the record itself is (`Record.Reads`). A closed record is read in the same
way from an object without other entries (`Record.reader_closed`), and from no object
that has one (`Record.reader_eq_error`).
-/

namespace ModuleContainers.Document

open Outcome (bind_eq_error bind_eq_ok check_eq_ok mapM_eq_ok)

/-! ## Writing -/

/-- What an object may say for a field. -/
structure WrittenField where
  name : String
  /-- The values that stand for the field. -/
  values : Json → Prop
  /-- The field may be left out. -/
  optional : Prop

namespace WrittenField

def required (name : String) (values : Json → Prop) : WrittenField := ⟨name, values, False⟩

/-- A field that is left out stands for its default. -/
def defaulted {α : Type} (name : String) (values : Json → Prop) (value default : α) :
    WrittenField :=
  ⟨name, values, value = default⟩

/-- The entries of an object say what they may for the field. -/
structure In (field : WrittenField) (entries : List (String × Json)) : Prop where
  present : ∀ value, entries.lookup field.name = some value → field.values value
  absent : entries.lookup field.name = none → field.optional

variable {field : WrittenField} {entries : List (String × Json)}

theorem In.of_present {value : Json} (hlookup : entries.lookup field.name = some value)
    (hvalue : field.values value) : field.In entries where
  present found hfound := by
    obtain rfl := Option.some.inj (hlookup.symm.trans hfound)
    exact hvalue
  absent hnone := by cases hlookup.symm.trans hnone

theorem In.of_absent (hlookup : entries.lookup field.name = none) (hoptional : field.optional) :
    field.In entries where
  present _ hfound := by cases hlookup.symm.trans hfound
  absent _ := hoptional

end WrittenField

/-- The value is an object that writes the fields. It may have other entries as
well. -/
def Writes (fields : List WrittenField) (value : Json) : Prop :=
  ∃ entries, value = .object entries ∧ (entries.map Prod.fst).Nodup
    ∧ ∀ field ∈ fields, field.In entries

variable {fields : List WrittenField} {entries : List (String × Json)}

/-- An object with an entry for each field writes the fields. -/
theorem writes_ofEntries (hkeys : (entries.map Prod.fst).Nodup)
    (h : List.Forall₂ (fun field entry => field.name = entry.1 ∧ field.values entry.2)
      fields entries) : Writes fields (.ofEntries entries) := by
  obtain ⟨object, hobject, hsorted, hlookup⟩ := Json.exists_ofEntries hkeys
  refine ⟨object, hobject, hsorted.nodup, fun field hfield => ?_⟩
  obtain ⟨entry, hentry, hname, hvalue⟩ : ∃ entry ∈ entries,
      field.name = entry.1 ∧ field.values entry.2 := by
    clear hkeys hobject hlookup
    induction h with
    | nil => cases hfield
    | cons hfirst _ ih =>
        rcases List.mem_cons.mp hfield with rfl | hfield
        · exact ⟨_, List.mem_cons_self .., hfirst⟩
        · obtain ⟨entry, hentry, hwrites⟩ := ih hfield
          exact ⟨entry, List.mem_cons_of_mem _ hentry, hwrites⟩
  exact .of_present (by rw [hlookup, hname, Entries.lookup_of_mem hkeys hentry]) hvalue

/-- Nothing is not an object. -/
theorem not_writes_null : ¬Writes fields .null := by
  rintro ⟨_, h, -⟩
  cases h

def WritesList {α : Type} (writes : α → Json → Prop) (items : List α) (value : Json) : Prop :=
  ∃ values, value = .list values ∧ List.Forall₂ writes items values

def WritesOption {α : Type} (writes : α → Json → Prop) : Option α → Json → Prop
  | none, value => value = .null
  | some content, value => writes content value

/-! ## Reading simple values -/

variable {rules : Rules} {α β : Type}

theorem plain_ofJson (rules : Rules) (value : Json) :
    rules.plain (.ofJson value) = .ofJson value := by
  unfold Rules.plain
  split
  · cases value <;> rfl
  · rfl

theorem keyName_text (rules : Rules) (names : List String) (key : String) :
    rules.keyName names (.text key) = .ok (some key) := by
  rw [Rules.keyName, show rules.plain (.text key) = .text key from plain_ofJson rules (.text key)]

namespace Reader

theorem text_eq_ok {value : Json} {text : String} (h : value = .text text) :
    Reader.text rules (.ofJson value) = .ok text := by
  rw [Reader.text, plain_ofJson, h]
  rfl

theorem boolean_eq_ok {value : Json} {flag : Bool} (h : value = .bool flag) :
    Reader.boolean rules (.ofJson value) = .ok flag := by
  rw [Reader.boolean, plain_ofJson, h]
  rfl

theorem int32_eq_ok {value : Json} {n : Int32} (h : value = .int n.toInt) :
    Reader.int32 rules (.ofJson value) = .ok n := by
  have hrange : isSigned 32 n.toInt = true := by
    rw [isSigned, Bool.and_eq_true, decide_eq_true_iff, decide_eq_true_iff]
    exact ⟨n.le_toInt, n.toInt_lt⟩
  rw [Reader.int32, plain_ofJson, h]
  simp [Datum.ofJson, hrange]

theorem list_eq_ok {read : Reader α} {writes : α → Json → Prop}
    (hread : ∀ a value, writes a value → read rules (.ofJson value) = .ok a) {items : List α}
    {value : Json} (h : WritesList writes items value) :
    Reader.list read rules (.ofJson value) = .ok items := by
  obtain ⟨values, rfl, hall⟩ := h
  rw [Reader.list, plain_ofJson]
  simp only [Datum.ofJson, Datum.ofItems_eq_map]
  rw [mapM_eq_ok, List.forall₂_map_left_iff]
  exact hall.flip.imp fun value a h => hread a value h

theorem optional_eq_ok {read : Reader α} {writes : α → Json → Prop}
    (hread : ∀ a value, writes a value → read rules (.ofJson value) = .ok a)
    (hnull : ∀ a, ¬writes a .null) {content : Option α}
    {value : Json} (h : WritesOption writes content value) :
    Reader.optional read rules (.ofJson value) = .ok content := by
  cases content with
  | none => rw [show value = .null from h]; rfl
  | some a =>
      have hcontent := hread a value h
      cases value
      case null => exact absurd h (hnull a)
      all_goals exact Outcome.map_eq_ok.mpr ⟨a, hcontent, rfl⟩

/-- A choice with content is written by an object with the one entry. -/
theorem choice_eq_ok (hrules : rules.choicesByTag = false)
    {alternatives : List (String × Alternative α)} {name : String} {read : Reader α}
    (hname : alternatives.lookup name = some (.carrying read)) {content : Json} {a : α}
    (hcontent : read rules (.ofJson content) = .ok a) :
    Reader.choice alternatives rules (.ofJson (.object [(name, content)])) = .ok a := by
  simp only [Reader.choice, Datum.ofJson, Datum.ofMembers, choiceParts, hrules, keyName_text, bind,
    Except.bind, Except.map, Bool.false_eq_true, if_false, Option.getD_some, hname]
  exact hcontent

end Reader

/-! ## Reading records -/

namespace Record

/-- The record is read from entries: none of them is refused, and together they
give the value. -/
structure Reads (rules : Rules) (record : Record α) (entries : List (String × Json)) (a : α) :
    Prop where
  check : ∀ name value, entries.lookup name = some value →
    record.check rules name (.ofJson value) = .ok ()
  assemble : ∀ source position, (∀ position, ∀ name ∈ record.names,
      source.get? position name = (entries.lookup name).map Datum.ofJson) →
    record.assemble rules source position = .ok a

variable {entries : List (String × Json)} {f : Record (α → β)} {g : α → β} {a : α} {name : String}
  {read : Reader α} {values : Json → Prop}

theorem Reads.pure (rules : Rules) (entries : List (String × Json)) (a : α) :
    (Record.pure a).Reads rules entries a :=
  ⟨fun _ _ _ => rfl, fun _ _ _ => rfl⟩

theorem Reads.field {default? : Option α}
    (h : WrittenField.In ⟨name, values, default? = some a⟩ entries)
    (hread : ∀ value, values value → read rules (.ofJson value) = .ok a) :
    (Record.field name read default?).Reads rules entries a where
  check key value hvalue := by
    simp only [Record.field]
    split
    · next heq => rw [hread value (h.present value (heq ▸ hvalue))]; rfl
    · rfl
  assemble source position hsource := by
    have hget := hsource position name (List.mem_singleton_self _)
    simp only [Record.field, hget]
    cases hlookup : entries.lookup name with
    | some value => exact hread value (h.present value hlookup)
    | none => rw [h.absent hlookup]; rfl

theorem Reads.seq {x : Record α} (hf : f.Reads rules entries g) (hx : x.Reads rules entries a) :
    (f <*> x).Reads rules entries (g a) where
  check key value hvalue := check_eq_ok.mpr ⟨hf.check key value hvalue, hx.check key value hvalue⟩
  assemble source position hsource := by
    have hleft := hf.assemble source position fun position name hname =>
      hsource position name (List.mem_append_left _ hname)
    have hright := hx.assemble source (position + f.names.length) fun position name hname =>
      hsource position name (List.mem_append_right _ hname)
    exact bind_eq_ok.mpr ⟨g, hleft, bind_eq_ok.mpr ⟨a, hright, rfl⟩⟩

theorem Reads.required (hf : f.Reads rules entries g)
    (h : (WrittenField.required name values).In entries)
    (hread : ∀ value, values value → read rules (.ofJson value) = .ok a) :
    (f <*> Record.required name read).Reads rules entries (g a) :=
  hf.seq (.field ⟨h.present, fun hnone => (h.absent hnone).elim⟩ hread)

theorem Reads.defaulted {default : α} (hf : f.Reads rules entries g)
    (h : (WrittenField.defaulted name values a default).In entries)
    (hread : ∀ value, values value → read rules (.ofJson value) = .ok a) :
    (f <*> Record.defaulted name read default).Reads rules entries (g a) :=
  hf.seq (.field ⟨h.present, fun hnone => congrArg some (h.absent hnone).symm⟩ hread)

/-- A field with a default, of which it is known whether and as what it is written. -/
theorem Reads.given {γ : Type} {given? : Option γ} {toJson : γ → Json} {meaning : γ → α}
    {default : α} (hf : f.Reads rules entries g) (hlookup : entries.lookup name = given?.map toJson)
    (hread : ∀ c, read rules (.ofJson (toJson c)) = .ok (meaning c))
    (ha : (given?.map meaning).getD default = a) :
    (f <*> Record.defaulted name read default).Reads rules entries (g a) := by
  subst ha
  cases given? with
  | none =>
      have hin : (WrittenField.defaulted name (fun _ => False) default default).In entries :=
        .of_absent hlookup rfl
      exact hf.defaulted hin fun _ h => h.elim
  | some c =>
      have hin : (WrittenField.defaulted name (· = toJson c) (meaning c) default).In entries :=
        .of_present hlookup rfl
      exact hf.defaulted hin fun _ h => h ▸ hread c

/-- The entries that stand for fields are found under their names, whatever else
there is. -/
theorem entriesOf_eq_ok {record : Record α} (hkeys : (entries.map Prod.fst).Nodup)
    (hcheck : ∀ entry ∈ entries, record.check rules entry.1 (.ofJson entry.2) = .ok ())
    (seen : List String) (hseen : ∀ entry ∈ entries, entry.1 ∉ seen) :
    ∃ found, record.entriesOf false rules seen (Datum.ofMembers entries) = .ok found
      ∧ ∀ name ∈ record.names, found.lookup name = (entries.lookup name).map Datum.ofJson := by
  induction entries generalizing seen with
  | nil => exact ⟨[], rfl, fun _ _ => rfl⟩
  | cons entry rest ih =>
      obtain ⟨hfirst, hrest⟩ := List.nodup_cons.mp hkeys
      obtain ⟨hgood, hothers⟩ := List.forall_mem_cons.mp hcheck
      obtain ⟨hnew, hnews⟩ := List.forall_mem_cons.mp hseen
      rw [Datum.ofMembers, Record.entriesOf, keyName_text]
      by_cases hknown : entry.1 ∈ record.names
      · have hfresh : ∀ other ∈ rest, other.1 ∉ entry.1 :: seen := fun other hother hmem => by
          rcases List.mem_cons.mp hmem with heq | hmem
          · exact hfirst (heq ▸ List.mem_map_of_mem hother)
          · exact hnews other hother hmem
        obtain ⟨found, hfound, hlookup⟩ := ih hrest hothers (entry.1 :: seen) hfresh
        refine ⟨(entry.1, .ofJson entry.2) :: found, ?_, fun name hname => ?_⟩
        · simp [bind, Except.bind, hknown, hnew, hgood, hfound, Pure.pure, Except.pure]
        · rw [Entries.lookup_cons, Entries.lookup_cons, hlookup name hname]
          split <;> rfl
      · obtain ⟨found, hfound, hlookup⟩ := ih hrest hothers seen hnews
        refine ⟨found, ?_, fun name hname => ?_⟩
        · simp [bind, Except.bind, hknown, hfound]
        · have hne : name ≠ entry.1 := fun heq => hknown (heq ▸ hname)
          rw [hlookup name hname, Entries.lookup_cons, if_neg hne]

theorem reader_of_reads {record : Record α} (typeName : String)
    (hkeys : (entries.map Prod.fst).Nodup) (hreads : record.Reads rules entries a) :
    record.reader typeName false rules (.ofJson (.object entries)) = .ok a := by
  obtain ⟨found, hfound, hlookup⟩ := entriesOf_eq_ok hkeys (fun entry hmem =>
    hreads.check entry.1 entry.2 (Entries.lookup_of_mem hkeys hmem)) [] (by simp)
  rw [Record.reader, plain_ofJson]
  exact bind_eq_ok.mpr ⟨found, hfound, hreads.assemble _ 0 fun _ name hname => hlookup name hname⟩

theorem reader_eq_ok {record : Record α} {fields : List WrittenField} (typeName : String)
    (hreads : ∀ entries, (∀ field ∈ fields, field.In entries) → record.Reads rules entries a)
    {value : Json} (h : Writes fields value) :
    record.reader typeName false rules (.ofJson value) = .ok a := by
  obtain ⟨entries, rfl, hkeys, hfields⟩ := h
  exact reader_of_reads typeName hkeys (hreads entries hfields)

/-! ## Closed records -/

section Closed

variable {record : Record α}

theorem entriesOf_closed (hknown : ∀ entry ∈ entries, entry.1 ∈ record.names)
    (seen : List String) :
    record.entriesOf true rules seen (Datum.ofMembers entries)
      = record.entriesOf false rules seen (Datum.ofMembers entries) := by
  induction entries generalizing seen with
  | nil => rfl
  | cons entry rest ih =>
      obtain ⟨hfirst, hrest⟩ := List.forall_mem_cons.mp hknown
      rw [Datum.ofMembers, Record.entriesOf, Record.entriesOf, keyName_text]
      simp only [bind, Except.bind, Option.getD_some, if_pos hfirst, ih hrest]

/-- Where every entry is one of a field, a closed record reads as an open one does. -/
theorem reader_closed (typeName : String) (hknown : ∀ entry ∈ entries, entry.1 ∈ record.names) :
    record.reader typeName true rules (.ofJson (.object entries))
      = record.reader typeName false rules (.ofJson (.object entries)) := by
  rw [Record.reader, Record.reader, plain_ofJson]
  simp only [Datum.ofJson, Record.ofEntries, entriesOf_closed hknown]

/-- An entry that a closed record refuses, wherever it stands. What stands before it
may be refused as well, and nothing behind it mends it. -/
theorem entriesOf_eq_error {entry : String × Json} (hmem : entry ∈ entries)
    (hrefused : entry.1 ∉ record.names
      ∨ ∃ e, record.check rules entry.1 (.ofJson entry.2) = .error e) (seen : List String) :
    ∃ e, record.entriesOf true rules seen (Datum.ofMembers entries) = .error e := by
  induction entries generalizing seen with
  | nil => cases hmem
  | cons first rest ih =>
      rw [Datum.ofMembers, Record.entriesOf, keyName_text]
      simp only [bind, Except.bind, Option.getD_some]
      by_cases hknown : first.1 ∈ record.names
      · rw [if_pos hknown]
        split
        · exact ⟨_, rfl⟩
        · rcases hcheck : record.check rules first.1 (.ofJson first.2) with e | ⟨⟩
          · exact ⟨e, rfl⟩
          · have hrest : entry ∈ rest := by
              rcases List.mem_cons.mp hmem with rfl | hrest
              · obtain hunknown | ⟨e, herror⟩ := hrefused
                · exact absurd hknown hunknown
                · cases hcheck.symm.trans herror
              · exact hrest
            obtain ⟨e, he⟩ := ih hrest (first.1 :: seen)
            exact ⟨e, by simp [he]⟩
      · exact ⟨_, by rw [if_neg hknown, if_pos trivial]; rfl⟩

theorem reader_eq_error (typeName : String) {entry : String × Json} (hmem : entry ∈ entries)
    (hrefused : entry.1 ∉ record.names
      ∨ ∃ e, record.check rules entry.1 (.ofJson entry.2) = .error e) :
    ∃ e, record.reader typeName true rules (.ofJson (.object entries)) = .error e := by
  obtain ⟨e, he⟩ := entriesOf_eq_error hmem hrefused []
  rw [Record.reader, plain_ofJson]
  exact ⟨e, bind_eq_error.mpr (.inl he)⟩

end Closed

end Record

end ModuleContainers.Document
