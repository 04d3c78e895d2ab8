import Mathlib.Data.List.Nodup

/-!
# Lists of entries

Objects, tables and directories are lists of entries, and what stands under a key is
the value of the first entry that has it.
-/

namespace ModuleContainers.Entries

variable {α β : Type} [DecidableEq α]

theorem lookup_cons (entry : α × β) (rest : List (α × β)) (key : α) :
    (entry :: rest).lookup key = if key = entry.1 then some entry.2 else rest.lookup key := by
  rw [List.lookup_cons]
  by_cases h : key = entry.1
  · rw [beq_iff_eq.mpr h, if_pos h]
  · rw [beq_eq_false_iff_ne.mpr h, if_neg h]

/-- The value of an entry stands under its key, where no other entry has that key. -/
theorem lookup_of_mem {entries : List (α × β)} (hkeys : (entries.map Prod.fst).Nodup)
    {entry : α × β} (hmem : entry ∈ entries) : entries.lookup entry.1 = some entry.2 := by
  induction entries with
  | nil => cases hmem
  | cons first rest ih =>
      obtain ⟨hfirst, hrest⟩ := List.nodup_cons.mp hkeys
      rw [lookup_cons]
      rcases List.mem_cons.mp hmem with rfl | hmem
      · exact if_pos rfl
      · have hne : entry.1 ≠ first.1 := fun heq => hfirst (heq ▸ List.mem_map_of_mem hmem)
        rw [if_neg hne]
        exact ih hrest hmem

/-- The order of the entries does not matter, where no two of them have one key. -/
theorem lookup_of_perm {entries others : List (α × β)} (hkeys : (entries.map Prod.fst).Nodup)
    (hperm : others.Perm entries) (key : α) : others.lookup key = entries.lookup key := by
  have hothers : (others.map Prod.fst).Nodup := (hperm.map Prod.fst).nodup_iff.mpr hkeys
  cases hlookup : entries.lookup key with
  | none =>
      rw [List.lookup_eq_none_iff] at hlookup ⊢
      exact fun entry hmem => hlookup entry (hperm.subset hmem)
  | some value =>
      obtain ⟨before, after, rfl, -⟩ := List.lookup_eq_some_iff.mp hlookup
      have hmem : (key, value) ∈ others := hperm.symm.subset (by simp)
      exact lookup_of_mem hothers hmem

theorem lookup_map_snd {γ : Type} (f : β → γ) (entries : List (α × β)) (key : α) :
    (entries.map fun entry => (entry.1, f entry.2)).lookup key = (entries.lookup key).map f := by
  induction entries with
  | nil => rfl
  | cons entry rest ih =>
      rw [List.map_cons, lookup_cons, lookup_cons, ih]
      split <;> rfl

end ModuleContainers.Entries
