import Mathlib.Data.List.Duplicate
import ModuleContainers.Files.Tree
import ModuleContainers.Proofs.Entries
import ModuleContainers.Proofs.Text.Splitting

/-!
# What stands where in a tree

A tree is told by what stands at its places: nothing, a directory, or a file with
its bytes (`node?`). The entries of a directory are in some order, but that does not
show.

Putting something at a place changes what stands there and below, and nothing else
(`node?_put`); where no directory is replaced and what is put there has nothing
below it, it changes just that one place (`node?_put_leaf`). A file that is put
beside others under a name that none of them has can get other contents (`put_put`) and be
taken away again without a trace (`remove_put`).
-/

namespace ModuleContainers.Files

/-- What stands at a place. -/
inductive Node where
  | directory
  | file (contents : ByteArray)

namespace FileTree

open Entries (lookup_cons)

variable {tree value : FileTree} {entries : List (String × FileTree)} {name : String}
  {place below : List String} {contents : ByteArray}

def node : FileTree → Node
  | .directory _ => .directory
  | .file contents => .file contents

def node? (tree : FileTree) (place : List String) : Option Node := (tree.get? place).map node

/-! ## Entries -/

theorem lookup_setEntry (name other : String) (value : FileTree)
    (entries : List (String × FileTree)) :
    (setEntry name value entries).lookup other
      = if other = name then some value else entries.lookup other := by
  induction entries with
  | nil => rw [setEntry, lookup_cons]
  | cons entry rest ih =>
      obtain ⟨n, v⟩ := entry
      rw [setEntry]
      split
      · next hn =>
          subst hn
          rw [lookup_cons, lookup_cons]
          split <;> rfl
      · next hn =>
          rw [lookup_cons, lookup_cons, ih]
          split
          · next h => rw [if_neg (h ▸ hn)]
          · rfl

theorem setEntry_eq_self (h : entries.lookup name = some value) :
    setEntry name value entries = entries := by
  induction entries with
  | nil => cases h
  | cons entry rest ih =>
      obtain ⟨n, v⟩ := entry
      rw [lookup_cons] at h
      rw [setEntry]
      by_cases hn : n = name
      · rw [if_pos hn.symm] at h
        obtain rfl := Option.some.inj h
        rw [if_pos hn, hn]
      · rw [if_neg (Ne.symm hn)] at h
        rw [if_neg hn, ih h]

theorem setEntry_setEntry (name : String) (first second : FileTree)
    (entries : List (String × FileTree)) :
    setEntry name second (setEntry name first entries) = setEntry name second entries := by
  induction entries with
  | nil => simp [setEntry]
  | cons entry rest ih =>
      obtain ⟨n, v⟩ := entry
      by_cases hn : n = name
      · simp [setEntry, hn]
      · simp [setEntry, hn, ih]

/-- A new entry goes again when its name is taken out. -/
theorem filter_setEntry (h : entries.lookup name = none) (value : FileTree) :
    (setEntry name value entries).filter (fun entry => entry.1 != name) = entries := by
  induction entries with
  | nil => simp [setEntry]
  | cons entry rest ih =>
      obtain ⟨n, v⟩ := entry
      rw [lookup_cons] at h
      have hn : n ≠ name := by
        rintro rfl
        simp at h
      rw [if_neg (Ne.symm hn)] at h
      simp [setEntry, hn, ih h]

/-! ## Nodes -/

@[simp] theorem get?_nil (tree : FileTree) : tree.get? [] = some tree := by
  cases tree <;> rfl

@[simp] theorem node?_nil (tree : FileTree) : tree.node? [] = some tree.node := by
  cases tree <;> rfl

theorem node?_cons_directory (entries : List (String × FileTree)) (name : String)
    (names : List String) :
    (directory entries).node? (name :: names)
      = (entries.lookup name).bind fun entry => entry.node? names := by
  rw [node?, get?]
  cases entries.lookup name <;> rfl

@[simp] theorem node?_cons_file (contents : ByteArray) (name : String) (names : List String) :
    (file contents).node? (name :: names) = none := rfl

theorem get?_append (tree : FileTree) (place below : List String) :
    tree.get? (place ++ below) = (tree.get? place).bind fun entry => entry.get? below := by
  induction place generalizing tree with
  | nil => cases tree <;> rfl
  | cons name names ih =>
      cases tree with
      | file contents => rfl
      | directory entries =>
          rw [List.cons_append, get?, get?]
          cases entries.lookup name with
          | none => rfl
          | some entry => exact ih entry

theorem node?_append (tree : FileTree) (place below : List String) :
    tree.node? (place ++ below) = (tree.get? place).bind fun entry => entry.node? below := by
  rw [node?, get?_append]
  cases tree.get? place <;> rfl

theorem node?_eq_none : tree.node? place = none ↔ tree.get? place = none := by
  rw [node?, Option.map_eq_none_iff]

theorem node?_eq_directory :
    tree.node? place = some .directory ↔ ∃ entries, tree.get? place = some (directory entries) := by
  rw [node?]
  rcases tree.get? place with _ | ⟨contents | entries⟩ <;> simp [node]

theorem node?_eq_file :
    tree.node? place = some (.file contents) ↔ tree.get? place = some (file contents) := by
  rw [node?]
  rcases tree.get? place with _ | ⟨contents | entries⟩ <;> simp [node]

/-- An entry of a directory stands at the place below it. -/
theorem get?_entry (h : tree.get? place = some (directory entries)) (name : String) :
    tree.get? (place ++ [name]) = entries.lookup name := by
  rw [get?_append, h, Option.bind_some, get?]
  cases entries.lookup name with
  | none => rfl
  | some entry => cases entry <;> rfl

theorem node?_entry_eq_none (h : tree.get? place = some (directory entries)) :
    tree.node? (place ++ [name]) = none ↔ entries.lookup name = none := by
  rw [node?_eq_none, get?_entry h]

/-- What has something below it is a directory. -/
theorem directory_of_below (hbelow : below ≠ []) (h : tree.node? (place ++ below) ≠ none) :
    tree.node? place = some .directory := by
  rw [node?_append] at h
  obtain ⟨name, names, rfl⟩ := List.exists_cons_of_ne_nil hbelow
  rw [node?_eq_directory]
  rcases hget : tree.get? place with _ | ⟨contents | entries⟩
  · simp [hget] at h
  · simp [hget] at h
  · exact ⟨entries, rfl⟩

/-- Above a directory there are directories only. -/
theorem directory_above {up : List String} (hplace : tree.node? place = some .directory)
    (hup : up <+: place) : tree.node? up = some .directory := by
  obtain ⟨rest, rfl⟩ := hup
  by_cases hrest : rest = []
  · simpa [hrest] using hplace
  · exact directory_of_below hrest (by rw [hplace]; simp)

/-! ## Putting and taking away -/

theorem put_cons {entry : FileTree} (h : entries.lookup name = some entry) (hbelow : below ≠ [])
    (value : FileTree) :
    (directory entries).put (name :: below) value
      = directory (setEntry name (entry.put below value) entries) := by
  rw [put, h]
  exact hbelow

theorem remove_cons {entry : FileTree} (h : entries.lookup name = some entry)
    (hbelow : below ≠ []) :
    (directory entries).remove (name :: below)
      = directory (setEntry name (entry.remove below) entries) := by
  rw [remove, h]
  exact hbelow

/-- What stands at the place and below is what was put there; all other places are
as they were. -/
theorem node?_put {dir : List String} (hdir : tree.node? dir = some .directory) (name : String)
    (value : FileTree) (place : List String) :
    (tree.put (dir ++ [name]) value).node? place
      = if dir ++ [name] <+: place then value.node? (place.drop (dir.length + 1))
        else tree.node? place := by
  induction dir generalizing tree place with
  | nil =>
      obtain ⟨entries, hentries⟩ := node?_eq_directory.mp hdir
      obtain rfl : tree = directory entries := Option.some.inj (get?_nil tree ▸ hentries)
      cases place with
      | nil => simp [put, node]
      | cons first rest =>
          rw [List.nil_append, put, node?_cons_directory, node?_cons_directory, lookup_setEntry]
          by_cases h : first = name
          · subst h
            simp
          · have hlead : ¬ [name] <+: first :: rest := fun hp =>
              h (List.cons_prefix_cons.mp hp).1.symm
            rw [if_neg h, if_neg hlead]
  | cons d ds ih =>
      rcases tree with contents | entries
      · simp at hdir
      · rw [node?_cons_directory] at hdir
        obtain ⟨entry, hentry, hbelow⟩ := Option.bind_eq_some_iff.mp hdir
        rw [List.cons_append, put_cons hentry (by simp)]
        cases place with
        | nil => simp [node]
        | cons first rest =>
            rw [node?_cons_directory, node?_cons_directory, lookup_setEntry]
            by_cases h : first = d
            · subst h
              rw [if_pos rfl, Option.bind_some, ih hbelow, hentry, Option.bind_some]
              simp
            · have hlead : ¬ d :: (ds ++ [name]) <+: first :: rest := fun hp =>
                h (List.cons_prefix_cons.mp hp).1.symm
              rw [if_neg h, if_neg hlead]

/-- Nothing is below the root. -/
def IsLeaf (tree : FileTree) : Prop := ∀ place, place ≠ [] → tree.node? place = none

theorem isLeaf_file (contents : ByteArray) : (file contents).IsLeaf
  | [], h => absurd rfl h
  | _ :: _, _ => rfl

theorem isLeaf_empty : empty.IsLeaf
  | [], h => absurd rfl h
  | _ :: _, _ => rfl

/-- Only the place itself changes when no directory is replaced. -/
theorem node?_put_leaf {dir : List String} (hdir : tree.node? dir = some .directory)
    (hvalue : value.IsLeaf) (hold : tree.node? (dir ++ [name]) ≠ some .directory)
    (place : List String) :
    (tree.put (dir ++ [name]) value).node? place
      = if place = dir ++ [name] then some value.node else tree.node? place := by
  rw [node?_put hdir]
  by_cases hlead : dir ++ [name] <+: place
  · obtain ⟨below, rfl⟩ := hlead
    have hdrop : (dir ++ [name] ++ below).drop (dir.length + 1) = below := by
      rw [show dir.length + 1 = (dir ++ [name]).length by simp, List.drop_left]
    rw [if_pos (List.prefix_append ..), hdrop]
    by_cases hbelow : below = []
    · subst hbelow
      simp
    · have hne : dir ++ [name] ++ below ≠ dir ++ [name] := by simpa using hbelow
      have hnothing : tree.node? (dir ++ [name] ++ below) = none := by
        by_contra hsome
        exact hold (directory_of_below hbelow hsome)
      rw [if_neg hne, hvalue below hbelow, hnothing]
  · have hne : place ≠ dir ++ [name] := by
      rintro rfl
      exact hlead (List.prefix_refl _)
    rw [if_neg hlead, if_neg hne]

theorem node?_put_new {dir : List String} (hdir : tree.node? dir = some .directory)
    (hvalue : value.IsLeaf) (hnew : tree.node? (dir ++ [name]) = none) (place : List String) :
    (tree.put (dir ++ [name]) value).node? place
      = if place = dir ++ [name] then some value.node else tree.node? place :=
  node?_put_leaf hdir hvalue (by rw [hnew]; simp) place

/-- Putting something where it already is changes nothing. -/
theorem put_eq_self (h : tree.get? place = some value) : tree.put place value = tree := by
  induction place generalizing tree with
  | nil =>
      obtain rfl : tree = value := Option.some.inj (get?_nil tree ▸ h)
      cases tree <;> rfl
  | cons first rest ih =>
      rcases tree with contents | entries
      · cases h
      · rw [get?] at h
        rcases hentry : entries.lookup first with _ | entry
        · simp [hentry] at h
        · simp only [hentry] at h
          cases rest with
          | nil =>
              obtain rfl : entry = value := Option.some.inj (get?_nil entry ▸ h)
              rw [put, setEntry_eq_self hentry]
          | cons next more =>
              rw [put_cons hentry (by simp), ih h, setEntry_eq_self hentry]

/-- What is put in the place of something that was put there is all that is left. -/
theorem put_put (tree : FileTree) (place : List String) (first second : FileTree) :
    (tree.put place first).put place second = tree.put place second := by
  induction place generalizing tree with
  | nil => rfl
  | cons name rest ih =>
      rcases tree with contents | entries
      · rfl
      · cases rest with
        | nil => rw [put, put, put, setEntry_setEntry]
        | cons next more =>
            rcases hentry : entries.lookup name with _ | entry
            · simp only [put, hentry]
            · have hlookup : (setEntry name (entry.put (next :: more) first) entries).lookup name
                  = some (entry.put (next :: more) first) := by rw [lookup_setEntry, if_pos rfl]
              rw [put_cons hentry (by simp), put_cons hlookup (by simp), ih, setEntry_setEntry,
                put_cons hentry (by simp)]

/-- A new entry can be taken away without a trace. -/
theorem remove_put {dir : List String} (hdir : tree.get? dir = some (directory entries))
    (hnew : entries.lookup name = none) (value : FileTree) :
    (tree.put (dir ++ [name]) value).remove (dir ++ [name]) = tree := by
  induction dir generalizing tree with
  | nil =>
      obtain rfl : tree = directory entries := Option.some.inj (get?_nil tree ▸ hdir)
      rw [List.nil_append, put, remove, filter_setEntry hnew]
  | cons d ds ih =>
      rcases tree with contents | others
      · cases hdir
      · rw [get?] at hdir
        rcases hentry : others.lookup d with _ | entry
        · simp [hentry] at hdir
        · simp only [hentry] at hdir
          have hlookup : (setEntry d (entry.put (ds ++ [name]) value) others).lookup d
              = some (entry.put (ds ++ [name]) value) := by rw [lookup_setEntry, if_pos rfl]
          rw [List.cons_append, put_cons hentry (by simp), remove_cons hlookup (by simp), ih hdir,
            setEntry_setEntry, setEntry_eq_self hentry]

/-- A file under a new name stands beside the others until it is taken away again. -/
theorem put_new (h : tree.get? place = some (directory entries))
    (hnew : entries.lookup name = none) (contents : ByteArray) :
    tree.node? (place ++ [name]) = none
      ∧ (∀ other, (tree.put (place ++ [name]) (file contents)).node? other
        = if other = place ++ [name] then some (.file contents) else tree.node? other)
      ∧ (tree.put (place ++ [name]) (file contents)).remove (place ++ [name]) = tree := by
  have hnone := (node?_entry_eq_none h).mpr hnew
  exact ⟨hnone, node?_put_new (node?_eq_directory.mpr ⟨entries, h⟩) (isLeaf_file contents) hnone,
    remove_put h hnew _⟩

end FileTree

end ModuleContainers.Files
