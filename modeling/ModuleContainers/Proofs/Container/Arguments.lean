import ModuleContainers.Container.Arguments
import ModuleContainers.Proofs.Configuration
import ModuleContainers.Proofs.Java.Fragment

/-!
# Outlines of dependencies and attributes

What an emitter emits is said by an outline: the tokens of its code, as a function of the
metadata that cannot fail. Outlines follow the emitters line by line, and the lemma of each
emitter says that where it succeeds, its fragment has the outline.

An emitter puts texts of its own around what it is given. Such a text is known, so its
tokens are found by evaluation (`reads_code`); where a value of an enumeration is a part of
it, there are as many texts as values.
-/

namespace ModuleContainers.Container

open ModuleContainers.Java (ClassName Fragment Outline code listed named quoted)
open ModuleContainers.Java.Fragment (Reads classLiteral reads_code reads_literal reads_type text
  type)
open ModuleContainers.Lexical (Ending)
open ModuleContainers.Metadata (Attribute BootstrapMode Constant Dependency ThreadMode)
open Outcome (bind_eq_ok mapM_eq_ok pure_eq_ok)

/-! ## Pieces -/

/-- The outline of the class object of a class. -/
def classOutline (target : ClassName) : Outline := named target ++ code ".class"

/-- The dot ends the class, so a class object may stand anywhere. -/
theorem reads_classLiteral {target : ClassName} (h : target.WellFormed) :
    (classLiteral target).Reads .loose (classOutline target) :=
  (reads_type h).append_stop (reads_code .loose ".class" rfl) rfl

/-- An array with its elements. -/
theorem reads_array {target : ClassName} (h : target.WellFormed) (before : String)
    (hbefore : Java.Fragment.isCode .sealed before = true) {items : Fragment}
    {outlines : List Outline} (hitems : items.Reads .loose (listed outlines)) :
    (text before ++ type target ++ text "[]\x7b" ++ items ++ text "\x7d").Reads .loose
      (code before ++ named target ++ code "[]\x7b" ++ listed outlines ++ code "\x7d") := by
  have hopen := ((reads_code .sealed before hbefore).append (reads_type h)).append_code "[]\x7b" rfl
  exact ((hopen.append hitems).append_code "\x7d" rfl).loosen

/-- What items are emitted as has the outlines of the items. -/
theorem forall₂_reads {α : Type} {e : Ending} {emit : α → Except Failure Fragment}
    {outline : α → Outline} (h : ∀ {item f}, emit item = .ok f → f.Reads e (outline item))
    {items : List α} {fs : List Fragment} (hmap : items.mapM emit = .ok fs) :
    List.Forall₂ (Reads e) fs (items.map outline) := by
  rw [List.forall₂_map_right_iff]
  exact (mapM_eq_ok.mp hmap).flip.imp fun _ _ hf => h hf

variable {runtime : Runtime ClassName} {f : Fragment}

/-! ## Accesses -/

/-- The expression that fetches a dependency at a point of access. A task gives its name, as
there is nothing to fetch. -/
def accessOutline (point : AccessPoint) : Dependency → Outline
  | .task name => quoted name
  | .service needed =>
      code (point.expression ++ "." ++ getter needed.kind ++ "(")
        ++ classOutline (classOf needed.className) ++ code ", " ++ quoted needed.serviceName
        ++ code ")"

theorem reads_access {point : AccessPoint} {dependency : Dependency}
    (h : access point dependency = .ok f) : f.Reads .loose (accessOutline point dependency) := by
  cases dependency with
  | task name =>
      obtain rfl := Except.ok.inj h
      exact reads_literal name
  | service needed =>
      obtain ⟨target, htarget, h⟩ := bind_eq_ok.mp h
      obtain ⟨rfl, hwf⟩ := classNamed_eq_ok htarget
      obtain rfl := pure_eq_ok.mp h
      -- Only so many receivers and methods are there, and all of them are tried.
      have hcall : (Fragment.text (point.expression ++ "." ++ getter needed.kind ++ "(")).Reads
          .sealed (code (point.expression ++ "." ++ getter needed.kind ++ "(")) := by
        refine reads_code _ _ ?_
        cases point <;> cases needed.kind <;> decide
      exact ((((hcall.append (reads_classLiteral hwf)).append_code ", " rfl).append
        (reads_literal _)).append_code ")" rfl).loosen

/-! ## Descriptors -/

/-- What a dependency is described to the runtime by. -/
def descriptorOutline (runtime : Runtime ClassName) : Dependency → Outline
  | .task name => quoted name
  | .service needed =>
      code "new " ++ named runtime.serviceDependency ++ code "("
        ++ classOutline (classOf needed.className) ++ code ", " ++ quoted needed.serviceName
        ++ code (", " ++ truth needed.optional ++ ")")

theorem reads_descriptor (hruntime : runtime.WellFormed) {dependency : Dependency}
    (h : descriptor runtime dependency = .ok f) :
    f.Reads .loose (descriptorOutline runtime dependency) := by
  cases dependency with
  | task name =>
      obtain rfl := Except.ok.inj h
      exact reads_literal name
  | service needed =>
      obtain ⟨target, htarget, h⟩ := bind_eq_ok.mp h
      obtain ⟨rfl, hwf⟩ := classNamed_eq_ok htarget
      obtain rfl := pure_eq_ok.mp h
      have hclass := reads_type (hruntime runtime.serviceDependency (by simp [Runtime.toList]))
      have hclose : (Fragment.text (", " ++ truth needed.optional ++ ")")).Reads .sealed
          (code (", " ++ truth needed.optional ++ ")")) := by
        refine reads_code _ _ ?_
        cases needed.optional <;> rfl
      have hopen := ((reads_code .sealed "new " rfl).append hclass).append_code "(" rfl
      have harguments := ((hopen.append (reads_classLiteral hwf)).append_code ", " rfl).append
        (reads_literal needed.serviceName)
      refine (harguments.append_stop hclose ?_).loosen
      cases needed.optional <;> rfl

/-! ## Attributes -/

/-- A pair of an attribute's name and its value. -/
def attributeOutline (runtime : Runtime ClassName) (pair : Attribute) : Outline :=
  named runtime.tuples ++ code ".to(" ++ quoted pair.name ++ code ", " ++ quoted pair.value
    ++ code ")"

/-- The array of the attributes; no attributes are the shared empty one. -/
def attributesOutline (runtime : Runtime ClassName) (attributes : List Attribute) : Outline :=
  if attributes = [] then named runtime.builtins ++ code ".emptyAttributesArray()"
  else
    code "new " ++ named runtime.pair ++ code "[]\x7b"
      ++ listed (attributes.map (attributeOutline runtime)) ++ code "\x7d"

theorem reads_attributePair (hruntime : runtime.WellFormed) (pair : Attribute) :
    (attributePair runtime pair).Reads .loose (attributeOutline runtime pair) := by
  have htuples := reads_type (hruntime runtime.tuples (by simp [Runtime.toList]))
  have hname := (htuples.append_code ".to(" rfl).append (reads_literal pair.name)
  have hvalue := (hname.append_code ", " rfl).append (reads_literal pair.value)
  exact (hvalue.append_code ")" rfl).loosen

theorem reads_attributeArray (hruntime : runtime.WellFormed) (attributes : List Attribute) :
    (attributeArray runtime attributes).Reads .loose (attributesOutline runtime attributes) := by
  unfold attributeArray attributesOutline
  split
  · have hbuiltins := reads_type (hruntime runtime.builtins (by simp [Runtime.toList]))
    exact (hbuiltins.append_code ".emptyAttributesArray()" rfl).loosen
  · have hpair := hruntime runtime.pair (by simp [Runtime.toList])
    have hpairs : List.Forall₂ (Reads .loose) (attributes.map (attributePair runtime))
        (attributes.map (attributeOutline runtime)) := by
      simp [List.forall₂_map_left_iff, List.forall₂_map_right_iff, List.forall₂_same,
        reads_attributePair hruntime]
    exact reads_array hpair "new " rfl (Reads.arguments hpairs)

/-! ## Constants -/

/-- A constant of an enumeration of the runtime. -/
def constantOutline {α : Type} [Constant α] (target : ClassName) (value : α) : Outline :=
  named target ++ code ("." ++ Constant.name value)

theorem reads_threadMode (hruntime : runtime.WellFormed) (mode : ThreadMode) :
    (constantOf runtime.threadMode mode).Reads .loose
      (constantOutline runtime.threadMode mode) := by
  have hclass := reads_type (hruntime runtime.threadMode (by simp [Runtime.toList]))
  refine hclass.append_stop (reads_code .loose _ ?_) ?_ <;> cases mode <;> decide

theorem reads_bootstrapMode (hruntime : runtime.WellFormed) (mode : BootstrapMode) :
    (constantOf runtime.bootstrapMode mode).Reads .loose
      (constantOutline runtime.bootstrapMode mode) := by
  have hclass := reads_type (hruntime runtime.bootstrapMode (by simp [Runtime.toList]))
  refine hclass.append_stop (reads_code .loose _ ?_) ?_ <;> cases mode <;> decide

end ModuleContainers.Container
