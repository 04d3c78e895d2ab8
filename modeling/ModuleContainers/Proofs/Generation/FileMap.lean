import ModuleContainers.Generation
import ModuleContainers.Proofs.Files.Path

/-!
# Files by path

A file map is sorted by the components of its paths, and it stays so when a file
comes in (`sorted_insert`). Where no two files have the same path, a map holds
just the files that came in (`insertAll_perm`), and since a sorted map is told by
its entries, the order in which they came in does not show
(`insertAll_eq_of_perm`).
-/

namespace ModuleContainers.FileMap

open ModuleContainers.Files (Path)

def Sorted (files : FileMap) : Prop := files.Pairwise fun a b => Path.order a.1 b.1 = .lt

/-- The entries have the paths of the map and the path that was added. -/
theorem mem_insert {files : FileMap} {path : Path} {contents : String} {entry : Path × String}
    (h : entry ∈ FileMap.insert files path contents) :
    entry.1 = path ∨ ∃ old ∈ files, old.1 = entry.1 := by
  fun_induction FileMap.insert with
  | case1 path contents => exact .inl (by simp_all)
  | case2 p old rest path contents hlt =>
      rcases List.mem_cons.mp h with rfl | h
      · exact .inl rfl
      · exact .inr ⟨entry, h, rfl⟩
  | case3 p old rest path contents heq =>
      rcases List.mem_cons.mp h with rfl | h
      · exact .inr ⟨(p, old), List.mem_cons_self .., rfl⟩
      · exact .inr ⟨entry, List.mem_cons_of_mem _ h, rfl⟩
  | case4 p old rest path contents hgt ih =>
      rcases List.mem_cons.mp h with rfl | h
      · exact .inr ⟨(p, old), List.mem_cons_self .., rfl⟩
      · exact (ih h).imp id fun ⟨other, hmem, hother⟩ =>
          ⟨other, List.mem_cons_of_mem _ hmem, hother⟩

theorem sorted_insert {files : FileMap} (h : Sorted files) (path : Path) (contents : String) :
    Sorted (FileMap.insert files path contents) := by
  fun_induction FileMap.insert with
  | case1 path contents => exact List.pairwise_singleton ..
  | case2 p old rest path contents hlt =>
      refine List.pairwise_cons.mpr ⟨fun entry hmem => ?_, h⟩
      rcases List.mem_cons.mp hmem with rfl | hmem
      · exact hlt
      · exact Std.TransCmp.lt_trans hlt ((List.pairwise_cons.mp h).1 entry hmem)
  | case3 p old rest path contents heq => exact List.pairwise_cons.mpr (List.pairwise_cons.mp h)
  | case4 p old rest path contents hgt ih =>
      obtain ⟨hfirst, hrest⟩ := List.pairwise_cons.mp h
      refine List.pairwise_cons.mpr ⟨fun entry hmem => ?_, ih hrest⟩
      rcases mem_insert hmem with heq | ⟨other, hother, heq⟩
      · exact heq ▸ Std.OrientedCmp.gt_iff_lt.mp hgt
      · exact heq ▸ hfirst other hother

/-- A file whose path is new is one more entry. -/
theorem insert_perm {files : FileMap} {path : Path} {contents : String}
    (hnew : ∀ entry ∈ files, entry.1.components ≠ path.components) :
    (FileMap.insert files path contents).Perm ((path, contents) :: files) := by
  fun_induction FileMap.insert with
  | case1 path contents => exact .refl _
  | case2 p old rest path contents hlt => exact .refl _
  | case3 p old rest path contents heq =>
      exact absurd (Path.order_eq_iff.mp heq).symm (hnew (p, old) (List.mem_cons_self ..))
  | case4 p old rest path contents hgt ih =>
      exact ((ih fun entry h => hnew entry (List.mem_cons_of_mem _ h)).cons _).trans (.swap ..)

theorem get?_eq_some {files : FileMap} (hsorted : Sorted files) {entry : Path × String}
    (h : entry ∈ files) : FileMap.get? files entry.1 = some entry.2 := by
  induction files with
  | nil => cases h
  | cons first rest ih =>
      obtain ⟨hfirst, hrest⟩ := List.pairwise_cons.mp hsorted
      rcases List.mem_cons.mp h with rfl | h
      · exact if_pos (Path.same_iff.mpr rfl)
      · have hother : first.1.same entry.1 = false := by
          rw [Bool.eq_false_iff, Ne, Path.same_iff, ← Path.order_eq_iff, hfirst entry h]
          simp
        rw [FileMap.get?, hother]
        exact ih hrest h

/-! ## Many files -/

/-- The map with some files, one after the other. -/
def insertAll (files : FileMap) (entries : List (Path × String)) : FileMap :=
  entries.foldl (fun files entry => FileMap.insert files entry.1 entry.2) files

theorem sorted_insertAll (entries : List (Path × String)) :
    ∀ {files : FileMap}, Sorted files → Sorted (insertAll files entries) := by
  induction entries with
  | nil => exact id
  | cons entry rest ih => exact fun h => ih (sorted_insert h entry.1 entry.2)

/-- Files whose paths differ all become entries, and there are no others. -/
theorem insertAll_perm {entries : List (Path × String)} {files : FileMap}
    (h : ((entries ++ files).map fun entry => entry.1.components).Nodup) :
    (insertAll files entries).Perm (entries ++ files) := by
  induction entries generalizing files with
  | nil => exact .refl _
  | cons entry rest ih =>
      have hswap : (entry :: rest ++ files).Perm (rest ++ entry :: files) := List.perm_middle.symm
      have hnodup := (hswap.map fun entry => entry.1.components).nodup_iff.mp h
      have hentry : (FileMap.insert files entry.1 entry.2).Perm (entry :: files) := by
        refine insert_perm fun other hmem heq => ?_
        refine (List.nodup_cons.mp h).1 (List.mem_map.mpr ⟨other, ?_, heq⟩)
        exact List.mem_append_right _ hmem
      have hgrown := hentry.append_left rest
      exact ((ih ((hgrown.map _).nodup_iff.mpr hnodup)).trans hgrown).trans hswap.symm

/-- A map of files with different paths has just these files. -/
theorem insertAll_nil_perm {entries : List (Path × String)}
    (h : (entries.map fun entry => entry.1.components).Nodup) :
    (insertAll [] entries).Perm entries := by
  rw [← List.append_nil entries] at h
  exact (insertAll_perm h).trans (.of_eq (List.append_nil entries))

/-- The same files in any order make the same map. -/
theorem insertAll_eq_of_perm {entries entries' : List (Path × String)}
    (hperm : entries.Perm entries') (h : (entries.map fun entry => entry.1.components).Nodup) :
    insertAll [] entries = insertAll [] entries' := by
  have h' := (hperm.map fun entry => entry.1.components).nodup_iff.mp h
  have hfiles : (insertAll [] entries).Perm (insertAll [] entries') :=
    (insertAll_nil_perm h).trans (hperm.trans (insertAll_nil_perm h').symm)
  exact hfiles.eq_of_pairwise (fun _ _ _ _ hab hba => absurd hba (Path.order_asymm hab))
    (sorted_insertAll entries .nil) (sorted_insertAll entries' .nil)

end ModuleContainers.FileMap
