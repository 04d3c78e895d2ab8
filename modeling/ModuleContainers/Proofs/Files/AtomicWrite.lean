import ModuleContainers.Proofs.Files.Access
import ModuleContainers.Proofs.Files.Spelling

/-!
# Writing all or nothing

Writing a file takes several steps, and each of them may be refused: a directory that
has to be made, the new file beside the target, and the exchange. What is refused is a
matter of the tree alone. A file where a directory is needed is met before anything is
made (`writeAtomic_blocked`), and a directory in the place of the target is met when
all directories are there already (`writeAtomic_occupied`); so the tree is left as it
was. In every other case the file is written (`writeAtomic_free`).
-/

namespace ModuleContainers.Files.FileTree

open Files.Path (IsName Ordinary Spells)

variable {current : List String} {naming : Naming} {path other : Path} {tree : FileTree}
  {dirs : List String} {name : String}

/-! ## Making directories, whatever the spelling -/

/-- Making a directory depends on where the path leads, not on how it is spelled. -/
theorem makeDirectory_congr (h : path.Spells dirs name) (hother : other.Spells dirs name)
    (habsolute : other.isAbsolute = path.isAbsolute) (current : List String) (tree : FileTree) :
    tree.makeDirectory current path = tree.makeDirectory current other := by
  rw [makeDirectory, makeDirectory, h.walk, hother.walk, start, start, habsolute]

/-- Of a single name the directory is there, so no step back is needed. -/
theorem makeDirectory_ne_gap (h : path.Spells [] name)
    (hstart : tree.node? (start current path) = some .directory) :
    tree.makeDirectory current path ≠ .gap := by
  rw [makeDirectory, h.walk, List.nil_append]
  by_cases hstep : tree.Steps (start current path) name
  · rw [walkFrom_cons_of_steps hstart hstep, walkFrom_nil]
    simp only
    split <;> simp
  · rw [walkFrom_cons_of_gap hstart hstep, if_pos rfl]
    simp

/-- Two spellings of one way make the same directories: a step back leads to two spellings
again. -/
theorem makeDirectories_congr (hstart : tree.node? (start current path) = some .directory)
    (h : path.Spells dirs name) (hother : other.Spells dirs name)
    (habsolute : other.isAbsolute = path.isAbsolute) (steps : Nat) :
    tree.makeDirectories current steps path = tree.makeDirectories current steps other := by
  induction steps generalizing path other dirs name with
  | zero => rfl
  | succ steps ih =>
      rw [makeDirectories, makeDirectories, if_neg h.hasParent, if_neg hother.hasParent]
      simp only [makeDirectory_congr h hother habsolute]
      split
      · rfl
      · rfl
      · rfl
      · next hgap =>
          rw [← makeDirectory_congr h hother habsolute] at hgap
          rcases List.eq_nil_or_concat' dirs with rfl | ⟨init, last, rfl⟩
          · exact absurd hgap (makeDirectory_ne_gap h hstart)
          · obtain ⟨hparent, hspells, hroot⟩ := h.directory
            obtain ⟨hparent', hspells', hroot'⟩ := hother.directory
            have hup := ih (by rwa [start, hroot, ← start]) hspells hspells'
              (by rw [hroot', hroot, habsolute])
            rw [hparent, hparent', Option.getD_some, Option.getD_some, hup]

/-! ## The directory is provided -/

theorem walk_directory (h : path.Spells dirs name)
    (hdir : tree.node? (start current path ++ dirs) = some .directory) :
    tree.walk current path.directory = .ok (.found (start current path ++ dirs)) := by
  rcases List.eq_nil_or_concat' dirs with rfl | ⟨init, last, rfl⟩
  · rw [List.append_nil] at hdir ⊢
    rw [h.directory_of_nil]
    cases habsolute : path.isAbsolute with
    | false =>
        rw [start, habsolute] at hdir ⊢
        exact walkFrom_cons_of_steps hdir (.inl rfl)
    | true =>
        rw [start, habsolute] at hdir ⊢
        exact (walkFrom_cons_of_steps hdir (.inl rfl)).trans
          (walkFrom_cons_of_steps hdir (.inl rfl))
  · obtain ⟨-, hspells, hroot⟩ := h.directory
    rw [hspells.walk, start, hroot, ← start, walkFrom_names hspells.isName (by simp [hdir])]

/-- A path that spells names is provided as the path of these names is. -/
theorem provide_spells (h : path.Spells dirs name)
    (hstart : tree.node? (start current path) = some .directory)
    (hclear : Clear tree (start current path) (dirs ++ [name])) :
    ∃ grown, tree.provide current path = (grown, .ok ())
      ∧ Paved (start current path) (dirs ++ [name]) tree grown := by
  have hsteps : (dirs ++ [name]).length ≤ path.text.length + 1 := by
    have hlength := path.length_segments_le
    obtain ⟨init, hsegments, hfilter⟩ := h.segments
    have hfewer := hfilter ▸ List.length_filter_le (fun s => !staysPut s) init
    rw [hsegments, List.length_append] at hlength
    rw [List.length_append]
    omega
  have hplain := path.spells_below_origin h.isDir h.isLast
  have hroot : (path.origin.below (dirs ++ [name])).isAbsolute = path.isAbsolute := by
    rw [Path.isAbsolute_below _ h.isName (by simp), path.isAbsolute_origin]
  refine provide_of_makeDirectories (h.walk current tree) hstart h.isName hclear ?_
  rw [makeDirectories_congr hstart h hplain hroot]
  exact makeDirectories_below (opens_origin hstart) h.isName hclear (by simp) hsteps

/-- The directory of the target is spelled by all names but the last, and there may be none. -/
theorem provide_directory (h : path.Spells dirs name)
    (hstart : tree.node? (start current path) = some .directory)
    (hclear : Clear tree (start current path) dirs) :
    ∃ grown, tree.provide current path.directory = (grown, .ok ())
      ∧ Paved (start current path) dirs tree grown := by
  rcases List.eq_nil_or_concat' dirs with rfl | ⟨init, last, rfl⟩
  · have hdir : tree.node? (start current path ++ []) = some .directory := by simpa using hstart
    have hleads : tree.leads current path.directory = true := by
      rw [leads, walk_directory h hdir]
    exact ⟨tree, by rw [provide, if_pos hleads], .refl hdir⟩
  · obtain ⟨-, hspells, hroot⟩ := h.directory
    have hsame : start current path.directory = start current path := by rw [start, hroot, ← start]
    rw [← hsame] at hstart hclear ⊢
    exact provide_spells hspells hstart hclear

/-! ## The exchange -/

theorem moveFile_occupied (h : path.Spells dirs name) (source : List String)
    (contents : ByteArray) (hold : tree.node? (path.target current) = some .directory) :
    tree.moveFile current source contents path = .error .isDirectory := by
  obtain ⟨entries, hget⟩ := node?_eq_directory.mp hold
  rw [h.target_eq, List.append_assoc] at hold hget
  rw [moveFile, h.walk, walkFrom_names h.isName (by simp [hold])]
  simp only [hget]

section Exchange

variable (h : path.Spells dirs name)
  (hdir : tree.node? (start current path ++ dirs) = some .directory)
include h hdir

/-- The new file is removed when it cannot be moved, so the tree is as it was. -/
theorem exchange_occupied (hold : tree.node? (path.target current) = some .directory)
    (naming : Naming) (contents : ByteArray) :
    tree.exchange current naming path.directory path contents
      = (tree, .error ⟨path, .isDirectory⟩) := by
  obtain ⟨entries, hget⟩ := node?_eq_directory.mp hdir
  obtain ⟨hnone, hheld, -⟩ := put_new hget (lookup_fresh naming entries) contents
  rw [exchange_of_directory (walk_directory h hdir) hget]
  generalize naming.fresh (entries.map Prod.fst) = fresh at hnone hheld ⊢
  have hold' : (tree.put (start current path ++ dirs ++ [fresh]) (.file contents)).node?
      (path.target current) = some .directory := by
    rw [hheld, if_neg ?_, hold]
    intro hsource
    rw [hsource, hnone] at hold
    cases hold
  simp only [moveFile_occupied h _ contents hold']

/-- The new file has taken the place of the target, and nothing is left of it elsewhere. -/
theorem exchange_free (hold : tree.node? (path.target current) ≠ some .directory)
    (naming : Naming) (contents : ByteArray) :
    tree.exchange current naming path.directory path contents
      = (tree.put (path.target current) (.file contents), .ok ()) := by
  rw [h.target_eq] at hold ⊢
  exact exchange_of_walk (walk_directory h hdir) (fun held _ => h.walk current held) h.isDir
    h.isLast hdir hold naming contents

end Exchange

/-! ## The three outcomes -/

/-- A file in the way of a directory: nothing is made. -/
theorem writeAtomic_blocked (h : path.Spells dirs name)
    (hstart : tree.node? (start current path) = some .directory)
    (hblocked : ¬ Clear tree (start current path) dirs) (naming : Naming) (text : String) :
    tree.writeAtomic current naming path text
      = (tree, .error ⟨path.directory, .notDirectory⟩) := by
  simp only [Clear, not_forall, not_not] at hblocked
  obtain ⟨up, ⟨more, rfl⟩, contents, hfile⟩ := hblocked
  obtain ⟨init, last, hconcat⟩ := (List.eq_nil_or_concat' (up ++ more)).resolve_left fun hnil => by
    obtain ⟨rfl, -⟩ := List.append_eq_nil_iff.mp hnil
    simp [hstart] at hfile
  obtain ⟨-, hspells, hroot⟩ := (hconcat ▸ h).directory
  have hup : ∀ segment ∈ up, IsName segment := fun segment hsegment =>
    h.isDir segment (List.mem_append_left _ hsegment)
  have hwalk : tree.walk current path.directory
      = tree.walkFrom (start current path ++ up) more := by
    rw [hspells.walk, start, hroot, ← start, ← hconcat,
      walkFrom_append (walkFrom_names hup (by simp [hfile]))]
  have hget := node?_eq_file.mp hfile
  cases more with
  | nil =>
      -- The file is the directory that the new file would stand in.
      rw [walkFrom_nil] at hwalk
      have hleads : tree.leads current path.directory = true := by rw [leads, hwalk]
      rw [writeAtomic_eq, provide, if_pos hleads]
      simp only [exchange, createIn, hwalk, hget]
  | cons next rest =>
      rw [walkFrom, hget] at hwalk
      have hleads : tree.leads current path.directory = false := by rw [leads, hwalk]
      rw [writeAtomic_eq, provide, hleads]
      simp only [Bool.false_eq_true, if_false, makeDirectories, if_neg hspells.hasParent,
        makeDirectory, hwalk]

/-- A directory in the place of the file: all that is there stays. -/
theorem writeAtomic_occupied (h : path.Spells dirs name)
    (hold : tree.node? (path.target current) = some .directory)
    (naming : Naming) (text : String) :
    tree.writeAtomic current naming path text = (tree, .error ⟨path, .isDirectory⟩) := by
  have hdir : tree.node? (start current path ++ dirs) = some .directory := by
    rw [h.target_eq] at hold
    exact directory_of_below (List.cons_ne_nil name []) (by rw [hold]; simp)
  have hleads : tree.leads current path.directory = true := by rw [leads, walk_directory h hdir]
  rw [writeAtomic_eq, provide, if_pos hleads]
  exact exchange_occupied h hdir hold naming _

/-- With the way clear and the place free, the write succeeds. -/
theorem writeAtomic_free (h : path.Spells dirs name)
    (hstart : tree.node? (start current path) = some .directory)
    (hclear : Clear tree (start current path) dirs)
    (hold : tree.node? (path.target current) ≠ some .directory) (naming : Naming)
    (text : String) :
    ∃ grown after, Paved (start current path) dirs tree grown
      ∧ tree.writeAtomic current naming path text = (after, .ok ())
      ∧ ∀ place, after.node? place
        = if place = path.target current then some (.file text.toUTF8) else grown.node? place := by
  obtain ⟨grown, hgrown, hpaved⟩ := provide_directory h hstart hclear
  have hdir := hpaved.directory dirs (List.prefix_refl _)
  have htarget := h.target_eq current
  have hold' : grown.node? (path.target current) ≠ some .directory := by
    rw [htarget] at hold ⊢
    rwa [hpaved.beyond]
  refine ⟨grown, grown.put (path.target current) (.file text.toUTF8), hpaved, ?_, ?_⟩
  · rw [writeAtomic_eq, hgrown]
    exact exchange_free h hdir hold' naming _
  · rw [htarget] at hold' ⊢
    exact node?_put_leaf hdir (isLeaf_file _) hold'

/-! ## Seen from the target -/

/-- The place stands in this one, or in something that does. -/
def Above (up place : List String) : Prop := up <+: place ∧ up ≠ place

theorem above_concat {up : List String} : Above up (dirs ++ [name]) ↔ up <+: dirs := by
  rw [Above, List.prefix_concat_iff]
  constructor
  · rintro ⟨hend | hup, hne⟩
    · exact absurd hend hne
    · exact hup
  · intro hup
    refine ⟨.inr hup, ?_⟩
    rintro rfl
    exact absurd hup.length_le (by simp)

/-- A clear way is one without a file above the target. Below the base this is said by the
names, and above the base there are directories only. -/
theorem clear_iff_above {base : List String} (hbase : tree.node? base = some .directory)
    (dirs : List String) (name : String) :
    Clear tree base dirs
      ↔ ∀ up contents, Above up (base ++ dirs ++ [name]) → tree.node? up ≠ some (.file contents) := by
  simp only [above_concat]
  constructor
  · intro hclear up contents hup
    rcases List.prefix_or_prefix_of_prefix hup (List.prefix_append base dirs) with hbelow | hbelow
    · rw [directory_above hbase hbelow]
      simp
    · obtain ⟨more, rfl⟩ := hbelow
      exact hclear more ((List.prefix_append_right_inj base).mp hup) contents
  · exact fun hnone up hup contents => hnone _ _ ((List.prefix_append_right_inj base).mpr hup)

/-- A file is written in full or the tree stays as it is, and which of the two happens
is seen from what stands at the target and above it. The path to blame and the reason
tell which of the two kinds of things was in the way. -/
theorem writeAtomic_atomic (hstart : tree.node? (start current path) = some .directory)
    (hpath : path.Ordinary) (naming : Naming) (text : String) :
    ((tree.writeAtomic current naming path text).2 = .ok ()
        ↔ (∀ up contents, Above up (path.target current) → tree.node? up ≠ some (.file contents))
          ∧ tree.node? (path.target current) ≠ some .directory)
      ∧ (∀ after, tree.writeAtomic current naming path text = (after, .ok ()) →
          after.node? (path.target current) = some (.file text.toUTF8)
          ∧ (∀ up, Above up (path.target current) → after.node? up = some .directory)
          ∧ ∀ place, place ≠ path.target current → ¬ Above place (path.target current) →
              after.node? place = tree.node? place)
      ∧ ∀ after error, tree.writeAtomic current naming path text = (after, .error error) →
          after = tree
          ∧ ((∃ up contents, Above up (path.target current) ∧ tree.node? up = some (.file contents))
              ∧ error = ⟨path.directory, .notDirectory⟩
            ∨ tree.node? (path.target current) = some .directory
              ∧ error = ⟨path, .isDirectory⟩) := by
  obtain ⟨dirs, name, h⟩ := hpath.spells
  have htarget := h.target_eq current
  have hclear := clear_iff_above hstart dirs name
  rw [← htarget] at hclear
  by_cases hway : Clear tree (start current path) dirs
  · by_cases hold : tree.node? (path.target current) = some .directory
    · rw [writeAtomic_occupied h hold]
      refine ⟨by simp [hold], by simp, fun after error hresult => ?_⟩
      obtain ⟨rfl, herror⟩ := Prod.mk.inj hresult
      exact ⟨rfl, .inr ⟨hold, (Except.error.inj herror).symm⟩⟩
    · obtain ⟨grown, after, hpaved, hresult, hafter⟩ :=
        writeAtomic_free h hstart hway hold naming text
      rw [hresult]
      refine ⟨⟨fun _ => ⟨hclear.mp hway, hold⟩, fun _ => rfl⟩, fun after' heq => ?_, by simp⟩
      obtain ⟨rfl, -⟩ := Prod.mk.inj heq
      refine ⟨by rw [hafter, if_pos rfl], fun up hup => ?_, fun place hplace habove => ?_⟩
      · rw [hafter, if_neg hup.2]
        rw [htarget, above_concat] at hup
        exact directory_above (hpaved.directory dirs (List.prefix_refl _)) hup
      · rw [hafter, if_neg hplace, hpaved.other]
        rintro up hup rfl
        rw [htarget, above_concat] at habove
        exact habove ((List.prefix_append_right_inj _).mpr hup)
  · rw [writeAtomic_blocked h hstart hway]
    have hfile := hway
    rw [hclear] at hfile
    push Not at hfile
    refine ⟨by simp [← hclear, hway], by simp, fun after error hresult => ?_⟩
    obtain ⟨rfl, herror⟩ := Prod.mk.inj hresult
    exact ⟨rfl, .inl ⟨hfile, (Except.error.inj herror).symm⟩⟩

/-- A file, and a directory with a file that has no contents yet. -/
def workshop : FileTree :=
  .directory [("notes", .file "old".toUTF8), ("src", .directory [("Draft.java", .file "".toUTF8)])]

theorem writeAtomic_atomic_workshop :
    (∃ after, workshop.writeAtomic ["src"] .longer ⟨"com//example/./Core.java"⟩ "class Core {}"
          = (after, .ok ())
        ∧ after.node? ["src", "com", "example", "Core.java"]
          = some (.file "class Core {}".toUTF8)
        ∧ after.node? ["src", "com"] = some .directory
        ∧ after.node? ["notes"] = some (.file "old".toUTF8))
      ∧ (∃ after, workshop.writeAtomic ["src"] .longer ⟨"/notes"⟩ "new" = (after, .ok ())
        ∧ after.node? ["notes"] = some (.file "new".toUTF8))
      ∧ workshop.writeAtomic ["src"] .longer ⟨"Draft.java/com/Core.java"⟩ "class Core {}"
        = (workshop, .error ⟨⟨"Draft.java/com"⟩, .notDirectory⟩)
      ∧ workshop.writeAtomic [] .longer ⟨"src"⟩ "new"
        = (workshop, .error ⟨⟨"src"⟩, .isDirectory⟩) := by
  have hsource : workshop.node? ["src"] = some .directory := rfl
  have hroot : workshop.node? [] = some .directory := rfl
  refine ⟨?_, ?_, ?_, ?_⟩
  · have hpath : Ordinary ⟨"com//example/./Core.java"⟩ :=
      ⟨by decide, "Core.java", by decide, by decide, by decide, by decide, by decide⟩
    obtain ⟨-, hwritten, -⟩ := writeAtomic_atomic hsource hpath .longer "class Core {}"
    obtain ⟨hfile, habove, hother⟩ := hwritten _ rfl
    exact ⟨_, rfl, hfile, habove ["src", "com"] ⟨by decide, by decide⟩,
      hother ["notes"] (by decide) fun h => absurd h.1 (by decide)⟩
  · have hpath : Ordinary ⟨"/notes"⟩ :=
      ⟨by decide, "notes", by decide, by decide, by decide, by decide, by decide⟩
    have hstart : workshop.node? (start ["src"] ⟨"/notes"⟩) = some .directory := hroot
    obtain ⟨-, hwritten, -⟩ := writeAtomic_atomic hstart hpath .longer "new"
    exact ⟨_, rfl, (hwritten _ rfl).1⟩
  · have hpath : Ordinary ⟨"Draft.java/com/Core.java"⟩ :=
      ⟨by decide, "Core.java", by decide, by decide, by decide, by decide, by decide⟩
    obtain ⟨-, -, hrefused⟩ := writeAtomic_atomic hsource hpath .longer "class Core {}"
    obtain ⟨hsame, -⟩ := hrefused _ _ rfl
    exact Prod.ext hsame rfl
  · have hpath : Ordinary ⟨"src"⟩ :=
      ⟨by decide, "src", by decide, by decide, by decide, by decide, by decide⟩
    obtain ⟨-, -, hrefused⟩ := writeAtomic_atomic hroot hpath .longer "new"
    obtain ⟨hsame, -⟩ := hrefused _ _ rfl
    exact Prod.ext hsame rfl

end ModuleContainers.Files.FileTree
