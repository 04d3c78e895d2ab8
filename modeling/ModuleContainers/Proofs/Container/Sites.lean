import ModuleContainers.Proofs.Container.Arguments

/-!
# Where an access can stand

An access names a class and a service, `.getService(C.class, "n")`. Of all that is
emitted for a class object, only an access goes on with a literal and a closing
parenthesis. So the places of accesses are found by the word `class`, which is one
lexeme and stands on one side of wherever an outline is cut in two: whatever holds
for the words of two outlines holds for the words of both together
(`Sites.append`). Where no class object goes on like an access, the outline is
clear, and most are.
-/

namespace ModuleContainers.Container

open ModuleContainers.Java (ClassName Lexeme Outline code codeTokens isIdentifier listed listed_cons
  named number quoted word)

/-! ## Sites -/

/-- What stands behind a class object in an access. -/
def endsAccess : Outline → Bool
  | .token (.symbol ",") :: .token (.literal _) :: .token (.symbol ")") :: _ => true
  | _ => false

/-- Every word `class` that may belong to an access is at a site, given by what
stands before and behind the word. -/
def Sites (p : Outline) (site : Outline → Outline → Prop) : Prop :=
  ∀ x y, p = x ++ .token (.word "class") :: y →
    (∀ rest, endsAccess (y ++ rest) = false) ∨ site x y

/-- No word `class` belongs to an access, whatever stands around the outline. -/
def Clear (p : Outline) : Prop := Sites p fun _ _ => False

variable {p q r : Outline} {s t : Outline → Outline → Prop}

theorem Sites.mono (hp : Sites p s) (h : ∀ x y, s x y → t x y) : Sites p t :=
  fun x y heq => (hp x y heq).imp id (h x y)

theorem Clear.sites (hp : Clear p) : Sites p s := hp.mono fun _ _ h => h.elim

theorem Sites.append (hp : Sites p s) (hq : Sites q t) :
    Sites (p ++ q) fun x y => (∃ y', y = y' ++ q ∧ s x y') ∨ ∃ x', x = p ++ x' ∧ t x' y := by
  intro x y heq
  rcases List.append_eq_append_iff.mp heq with ⟨middle, hx, hq'⟩ | ⟨middle, hp', hy⟩
  · -- The word is in the second outline.
    refine (hq middle y hq').imp id fun h => .inr ⟨middle, hx, h⟩
  · cases middle with
    | nil =>
        rw [List.append_nil] at hp'
        rw [List.nil_append] at hy
        refine (hq [] y hy.symm).imp id fun h => .inr ⟨[], by rw [hp', List.append_nil], h⟩
    | cons lexeme middle =>
        obtain ⟨rfl, rfl⟩ := List.cons.inj hy
        refine (hp x middle hp').imp (fun h rest => ?_) fun h => .inl ⟨middle, rfl, h⟩
        have hrest := h (q ++ rest)
        rwa [← List.append_assoc] at hrest

theorem Clear.append (hp : Clear p) (hq : Clear q) : Clear (p ++ q) :=
  (Sites.append hp hq).mono fun _ _ h => h.elim (fun ⟨_, _, h⟩ => h) fun ⟨_, _, h⟩ => h

/-- The sites of a part, seen from a whole that the part stands in. -/
def Around (p r : Outline) (s : Outline → Outline → Prop) (x y : Outline) : Prop :=
  ∃ x' y', x = p ++ x' ∧ y = y' ++ r ∧ s x' y'

theorem Around.widen {p' r' x y : Outline} (h : Around p' r' s x y) (p r : Outline) :
    Around (p ++ p') (r' ++ r) s (p ++ x) (y ++ r) := by
  obtain ⟨x', y', rfl, rfl, h⟩ := h
  exact ⟨x', y', (List.append_assoc ..).symm, List.append_assoc .., h⟩

theorem Around.nested {p' r' x y : Outline} (h : Around p r (Around p' r' s) x y) :
    Around (p ++ p') (r' ++ r) s x y := by
  obtain ⟨_, _, rfl, rfl, h⟩ := h
  exact h.widen p r

/-- Clear outlines around a part add nothing to its sites. -/
theorem Sites.around (hp : Clear p) (hq : Sites q s) (hr : Clear r) :
    Sites (p ++ q ++ r) (Around p r s) := by
  refine ((Sites.append hp hq).append hr).mono fun x y h => ?_
  obtain ⟨y', rfl, ⟨-, -, h⟩ | ⟨x', rfl, h⟩⟩ | ⟨x', -, h⟩ := h
  · exact h.elim
  · exact ⟨x', y', rfl, rfl, h⟩
  · exact h.elim

theorem clear_of_not_mem (h : Lexeme.token (.word "class") ∉ p) : Clear p := by
  rintro x y rfl
  exact absurd (List.mem_append_right x (List.mem_cons_self ..)) h

theorem clear_nil : Clear [] := clear_of_not_mem List.not_mem_nil

theorem clear_code (text : String) (h : (codeTokens text).contains (.word "class") = false) :
    Clear (code text) := by
  refine clear_of_not_mem fun hmem => ?_
  obtain ⟨token, htoken, heq⟩ := List.mem_map.mp hmem
  cases heq
  rw [List.contains_iff_mem.mpr htoken] at h
  cases h

theorem Clear.append_code (hp : Clear p) (text : String)
    (h : (codeTokens text).contains (.word "class") = false) : Clear (p ++ code text) :=
  hp.append (clear_code text h)

theorem clear_quoted (value : String) : Clear (quoted value) :=
  clear_of_not_mem (by simp [quoted])

theorem clear_named (target : ClassName) : Clear (named target) :=
  clear_of_not_mem (by simp [named])

theorem clear_number (i : Int) : Clear (number i) := by
  refine clear_of_not_mem ?_
  cases i <;> simp [number, Lexical.numberTokens]

theorem clear_word {name : String} (h : name ≠ "class") : Clear (word name) :=
  clear_of_not_mem (by simpa [word, eq_comm] using h)

theorem ne_class {name : String} (h : isIdentifier name = true) : name ≠ "class" := by
  rintro rfl
  revert h
  decide

theorem sites_class (target : ClassName) (hq : Clear q) :
    Sites (classOutline target ++ q) fun x y =>
      x = named target ++ [.token (.symbol ".")] ∧ y = q := by
  have hparts : classOutline target ++ q
      = (named target ++ [.token (.symbol ".")]) ++ .token (.word "class") :: q := by
    have hclass : code ".class" = [.token (.symbol "."), .token (.word "class")] := by decide
    simp [classOutline, hclass]
  have hhead : Clear (named target ++ [.token (.symbol ".")]) :=
    (clear_named target).append (clear_code "." rfl)
  have hword : Sites (.token (.word "class") :: q) fun x y => x = [] ∧ y = q := by
    rintro (_ | ⟨lexeme, x⟩) y heq
    · exact .inr ⟨rfl, (List.cons.inj heq).2.symm⟩
    · exact (hq x y (List.cons.inj heq).2).imp id False.elim
  rw [hparts]
  refine (Sites.append hhead hword).mono fun x y h => ?_
  obtain ⟨_, _, h⟩ | ⟨x', rfl, rfl, rfl⟩ := h
  · exact h.elim
  · exact ⟨List.append_nil _, rfl⟩

/-- A class object, and behind it what tells that it belongs to no access. -/
theorem clear_class (target : ClassName) (hq : Clear q)
    (hend : ∀ rest, endsAccess (q ++ rest) = false) : Clear (classOutline target ++ q) := by
  intro x y heq
  obtain h | ⟨-, rfl⟩ := sites_class target hq x y heq
  · exact .inl h
  · exact .inl hend

/-! ## Lists -/

section Lists

variable {α : Type} {outline : α → Outline} {site : α → Outline → Outline → Prop} {items : List α}

theorem sites_flatMap (h : ∀ item ∈ items, Sites (outline item) (site item)) :
    Sites (items.flatMap outline) fun x y => ∃ earlier item later,
      items = earlier ++ item :: later
        ∧ Around (earlier.flatMap outline) (later.flatMap outline) (site item) x y := by
  induction items with
  | nil => exact clear_nil.sites
  | cons first rest ih =>
      have hfirst := h first (List.mem_cons_self ..)
      have hrest := ih fun item hitem => h item (List.mem_cons_of_mem _ hitem)
      refine (Sites.append hfirst hrest).mono fun x y hsite => ?_
      rcases hsite with ⟨y', rfl, hsite⟩
        | ⟨_, rfl, earlier, item, later, rfl, x', y', rfl, rfl, hsite⟩
      · exact ⟨[], first, rest, rfl, x, y', rfl, rfl, hsite⟩
      · exact ⟨first :: earlier, item, later, rfl, x', y', by simp, rfl, hsite⟩

theorem clear_flatMap (h : ∀ item ∈ items, Clear (outline item)) : Clear (items.flatMap outline) :=
  (sites_flatMap h).mono fun _ _ ⟨_, _, _, _, _, _, _, _, h⟩ => h

theorem clear_flatten {parts : List Outline} (h : ∀ part ∈ parts, Clear part) :
    Clear parts.flatten := by
  rw [← List.flatMap_id]
  exact clear_flatMap h

theorem sites_listed (h : ∀ item ∈ items, Sites (outline item) (site item)) :
    Sites (listed (items.map outline)) fun x y => ∃ earlier item later,
      items = earlier ++ item :: later
        ∧ Around (earlier.flatMap fun item => outline item ++ code ",")
          (later.flatMap fun item => code "," ++ outline item) (site item) x y := by
  induction items with
  | nil => exact clear_nil.sites
  | cons first rest ih =>
      have hfirst := h first (List.mem_cons_self ..)
      have hrest := ih fun item hitem => h item (List.mem_cons_of_mem _ hitem)
      cases rest with
      | nil =>
          have hsingle : listed ([first].map outline) = outline first := by simp [listed]
          rw [hsingle]
          exact hfirst.mono fun x y hsite => ⟨[], first, [], rfl, x, y, rfl, by simp, hsite⟩
      | cons next more =>
          have hparts : listed ((first :: next :: more).map outline)
              = (outline first ++ code ",") ++ listed ((next :: more).map outline) := by
            simp [listed]
          rw [hparts]
          refine ((Sites.append hfirst (clear_code "," rfl)).append hrest).mono fun x y hsite => ?_
          rcases hsite with ⟨_, rfl, ⟨y', rfl, hsite⟩ | ⟨_, -, hsite⟩⟩
            | ⟨_, rfl, earlier, item, later, hitems, x', y', rfl, rfl, hsite⟩
          · refine ⟨[], first, next :: more, rfl, x, y', rfl, ?_, hsite⟩
            simp [listed_cons, List.flatMap_map]
          · exact hsite.elim
          · rw [hitems]
            exact ⟨first :: earlier, item, later, rfl, x', y', by simp, rfl, hsite⟩

end Lists

theorem clear_listed {items : List Outline} (h : ∀ item ∈ items, Clear item) :
    Clear (listed items) :=
  Java.listed_induction clear_nil (clear_code "," rfl) Clear.append h

end ModuleContainers.Container
