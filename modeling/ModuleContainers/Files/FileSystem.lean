import ModuleContainers.Files.Path

/-!
# File systems

`FileSystem` is what a program needs of a world with files: a few operations, each of
which is done or refused with a reason (`Fault`).

Writing is put together from them, in every world by the same steps
(`FileSystem.writeAtomic`). The contents go into a new file beside the target, and
that file then takes the target's place, so whoever looks at the target sees the old
contents or the new ones. Missing directories on the way are made first, and a new
file that is not needed in the end is removed. A step that is refused is reported with
the path to blame for it: the directory when it cannot be made or cannot take a new
file, the new file when it does not take the contents, the target when the exchange
is refused.

A world with the package for temporary files makes up the name of a new file itself.
All that is relied on is that it is a name, and one that nothing in the directory has;
a world in memory is given such names (`Naming`).
-/

namespace ModuleContainers.Files

/-! ## Faults -/

/-- Why something cannot be done with a file or a directory. -/
inductive Fault where
  | missing
  /-- Something is there already. -/
  | taken
  | isDirectory
  | notDirectory
  | notText
  | other (words : String)
  deriving Repr, DecidableEq

def Fault.words : Fault → String
  | .missing => "No such file or directory (os error 2)"
  | .taken => "File exists (os error 17)"
  | .isDirectory => "Is a directory (os error 21)"
  | .notDirectory => "Not a directory (os error 20)"
  | .notText => "stream did not contain valid UTF-8"
  | .other words => words

/-- A write that failed: the path to blame, and why its step was refused. -/
structure WriteError where
  path : Path
  cause : Fault
  deriving Repr, DecidableEq

instance : Coe WriteError Path := ⟨WriteError.path⟩

/-! ## Operations -/

/-- A world with files. -/
structure FileSystem (m : Type → Type) where
  /-- Gives the text of a file. -/
  readText : Path → m (Except Fault String)
  /-- Tells whether the path leads to something. -/
  leads : Path → m Bool
  /-- Makes a directory and those on the way to it; none has to be missing. -/
  makeDirectories : Path → m (Except Fault Unit)
  /-- Makes a file without contents in a directory, under a name that nothing there
  has. -/
  createIn : Path → m (Except Fault Path)
  /-- Gives a file other contents. -/
  fill : Path → String → m (Except Fault Unit)
  /-- Moves a file to another path, in place of the file that may be there. -/
  rename : Path → Path → m (Except Fault Unit)
  /-- Removes a file. -/
  remove : Path → m (Except Fault Unit)

namespace FileSystem

variable {m n : Type → Type}

/-- The world in which every operation is carried out in another way. -/
def map (f : (α : Type) → m α → n α) (files : FileSystem m) : FileSystem n where
  readText path := f _ (files.readText path)
  leads path := f _ (files.leads path)
  makeDirectories path := f _ (files.makeDirectories path)
  createIn directory := f _ (files.createIn directory)
  fill path text := f _ (files.fill path text)
  rename source target := f _ (files.rename source target)
  remove path := f _ (files.remove path)

/-! ## Writing -/

variable [Monad m]

/-- The step, with the path to blame where it is refused. -/
def blaming {α : Type} (path : Path) (step : m (Except Fault α)) : ExceptT WriteError m α :=
  ExceptT.mk do
    return (← step).mapError fun cause => ⟨path, cause⟩

/-- Has the directory of a new file there. -/
def provide (files : FileSystem m) (directory : Path) : ExceptT WriteError m Unit := do
  if !(← ExceptT.lift (files.leads directory)) then
    blaming directory (files.makeDirectories directory)

/-- Does something with a new file of the directory. The file does not outlive it when
it fails. -/
def withNewFile (files : FileSystem m) (directory : Path)
    (use : Path → ExceptT WriteError m Unit) : ExceptT WriteError m Unit := do
  let file ← blaming directory (files.createIn directory)
  tryCatch (use file) fun error => do
    let _ ← ExceptT.lift (files.remove file)
    throw error

/-- Writes a file through a new file in the same directory. -/
def writeAtomic (files : FileSystem m) (path : Path) (text : String) :
    m (Except WriteError Unit) := ExceptT.run do
  files.provide path.directory
  files.withNewFile path.directory fun file => do
    blaming file (files.fill file text)
    blaming path (files.rename file path)

end FileSystem

/-! ## Names for new files -/

/-- A way to name a new file: as none of the names is spelled that are in use, and by
something that can be a name. -/
structure Naming where
  fresh : List String → String
  fresh_not_mem : ∀ names, fresh names ∉ names
  isName : ∀ names, Path.IsName (fresh names)

namespace Naming

/-- The number of characters of the longest name. -/
def longest (names : List String) : Nat := names.foldr (fun name most => max name.length most) 0

theorem length_le_longest {names : List String} {name : String} (h : name ∈ names) :
    name.length ≤ longest names := by
  induction names with
  | nil => cases h
  | cons first rest ih =>
      rcases List.mem_cons.mp h with rfl | h
      · exact Nat.le_max_left ..
      · exact Nat.le_trans (ih h) (Nat.le_max_right ..)

/-- As many zeros as make a name longer than all that are in use. -/
def zeros (names : List String) : String :=
  ".new" ++ String.ofList (List.replicate (longest names) '0')

theorem length_zeros (names : List String) : (zeros names).length = 4 + longest names := by
  have hzeros : (String.ofList (List.replicate (longest names) '0')).length = longest names := by
    rw [String.length_ofList, List.length_replicate]
  rw [zeros, String.length_append, hzeros]
  rfl

theorem zeros_ne {names : List String} {text : String} (h : text.length < 4) :
    zeros names ≠ text := by
  rintro rfl
  rw [length_zeros] at h
  omega

def longer : Naming where
  fresh := zeros
  fresh_not_mem names hmem := by
    have hlength := length_le_longest hmem
    rw [length_zeros] at hlength
    omega
  isName names :=
    { slash := by simp [zeros, String.toList_append]
      empty := zeros_ne (by decide)
      current := zeros_ne (by decide)
      parent := zeros_ne (by decide) }

end Naming

end ModuleContainers.Files
