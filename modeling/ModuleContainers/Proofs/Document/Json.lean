import Mathlib.Data.List.Basic
import Mathlib.Data.String.Basic
import ModuleContainers.Document.Datum
import ModuleContainers.Proofs.Entries

/-!
# Entries of JSON objects

An entry that is added to an object changes what stands under its own key and
nothing else (`lookup_insert`), and the keys stay in ascending order, so each is
there once. An object that is made of entries with different keys has just these
entries (`exists_ofEntries`).
-/

namespace ModuleContainers.Document

namespace Json

open Entries (lookup_cons)

variable {entries : List (String × Json)} {key name : String} {value : Json}

/-- Every key comes before those that follow. -/
def Ascending (entries : List (String × Json)) : Prop := entries.Pairwise fun a b => a.1 < b.1

theorem Ascending.nodup (h : Ascending entries) : (entries.map Prod.fst).Nodup := by
  rw [List.Nodup, List.pairwise_map]
  exact h.imp fun hlt => String.ne_of_lt hlt

theorem lookup_insert (key name : String) (value : Json) (entries : List (String × Json)) :
    (insert key value entries).lookup name
      = if name = key then some value else entries.lookup name := by
  fun_induction insert with
  | case1 => rw [lookup_cons]
  | case2 k v rest hlt => rw [lookup_cons]
  | case3 v rest hlt =>
      rw [lookup_cons, lookup_cons]
      split <;> rfl
  | case4 k v rest hlt hne ih =>
      rw [lookup_cons, lookup_cons, ih]
      split
      · next h => rw [if_neg (h ▸ Ne.symm hne)]
      · rfl

theorem mem_insert {entry : String × Json} (h : entry ∈ insert key value entries) :
    entry = (key, value) ∨ entry ∈ entries := by
  fun_induction insert with
  | case1 => exact .inl (List.mem_singleton.mp h)
  | case2 k v rest hlt => exact List.mem_cons.mp h
  | case3 v rest hlt => exact (List.mem_cons.mp h).imp id fun h => List.mem_cons_of_mem _ h
  | case4 k v rest hlt hne ih =>
      rcases List.mem_cons.mp h with rfl | h
      · exact .inr (List.mem_cons_self ..)
      · exact (ih h).imp id fun h => List.mem_cons_of_mem _ h

theorem ascending_insert (h : Ascending entries) : Ascending (insert key value entries) := by
  fun_induction insert with
  | case1 => exact List.pairwise_singleton ..
  | case2 k v rest hlt =>
      refine List.pairwise_cons.mpr ⟨fun entry hmem => ?_, h⟩
      rcases List.mem_cons.mp hmem with rfl | hmem
      · exact hlt
      · exact String.lt_trans hlt ((List.pairwise_cons.mp h).1 entry hmem)
  | case3 v rest hlt => exact List.pairwise_cons.mpr (List.pairwise_cons.mp h)
  | case4 k v rest hlt hne ih =>
      obtain ⟨hfirst, hrest⟩ := List.pairwise_cons.mp h
      refine List.pairwise_cons.mpr ⟨fun entry hmem => ?_, ih hrest⟩
      rcases mem_insert hmem with rfl | hmem
      · exact lt_of_le_of_ne (String.not_lt.mp hlt) (Ne.symm hne)
      · exact hfirst entry hmem

/-- Entries that are added one after the other. Their keys differ, so none of
them takes the place of another. -/
theorem lookup_foldl_insert (hkeys : (entries.map Prod.fst).Nodup) (name : String) :
    ∀ object : List (String × Json),
      (entries.foldl (fun object entry => insert entry.1 entry.2 object) object).lookup name
        = (entries.lookup name).or (object.lookup name) := by
  induction entries with
  | nil => exact fun _ => rfl
  | cons first rest ih =>
      intro object
      obtain ⟨hfirst, hrest⟩ := List.nodup_cons.mp hkeys
      rw [List.foldl_cons, ih hrest, lookup_insert, lookup_cons]
      split
      · next heq =>
          have hnone : rest.lookup name = none := List.lookup_eq_none_iff.mpr fun entry hmem => by
            rw [bne_iff_ne, heq]
            exact fun hsame => hfirst (hsame ▸ List.mem_map_of_mem hmem)
          rw [hnone]
          rfl
      · rfl

theorem ascending_foldl_insert {object : List (String × Json)} (h : Ascending object) :
    Ascending (entries.foldl (fun object entry => insert entry.1 entry.2 object) object) := by
  induction entries generalizing object with
  | nil => exact h
  | cons first rest ih => exact ih (ascending_insert h)

/-- Entries with different keys are the entries of the object that is made of them. -/
theorem exists_ofEntries (hkeys : (entries.map Prod.fst).Nodup) :
    ∃ object, ofEntries entries = .object object ∧ Ascending object
      ∧ ∀ name, object.lookup name = entries.lookup name :=
  ⟨_, rfl, ascending_foldl_insert .nil, fun name => by
    rw [lookup_foldl_insert hkeys name []]
    exact Option.or_none⟩

end Json

/-! ## Tags -/

namespace Datum

mutual

/-- No tag comes out of JSON. -/
theorem hasTag_ofJson : ∀ value : Json, (ofJson value).hasTag = false
  | .null => rfl
  | .bool _ => rfl
  | .int _ => rfl
  | .float _ => rfl
  | .text _ => rfl
  | .list items => anyTag_ofItems items
  | .object entries => anyEntryTag_ofMembers entries

theorem anyTag_ofItems : ∀ items : List Json, anyTag (ofItems items) = false
  | [] => rfl
  | item :: rest => by simp [ofItems, anyTag, hasTag_ofJson item, anyTag_ofItems rest]

theorem anyEntryTag_ofMembers :
    ∀ entries : List (String × Json), anyEntryTag (ofMembers entries) = false
  | [] => rfl
  | (key, item) :: rest => by
      simp [ofMembers, anyEntryTag, hasTag, hasTag_ofJson item, anyEntryTag_ofMembers rest]

end

theorem ofItems_eq_map (items : List Json) : ofItems items = items.map ofJson := by
  induction items with
  | nil => rfl
  | cons item rest ih => rw [ofItems, ih, List.map_cons]

end Datum

end ModuleContainers.Document
