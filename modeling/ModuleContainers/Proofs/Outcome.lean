import Mathlib.Data.List.Forall2

/-!
# Steps that may fail

Emitters and checks are sequences of steps, and the first step that fails ends
them. A sequence that succeeded is taken apart step by step (`bind_eq_ok`,
`map_eq_ok`, `mapM_eq_ok`), and a sequence succeeds when each step does
(`mapM_succeeds`). A sequence that failed did so at one of its steps, and every
step before that one succeeded (`bind_eq_error`, `mapM_eq_error`). Two sequences
whose steps are the same one by one are the same (`mapM_congr`).

Steps that change a state as well are gone through from where the one before has left
it (`run_bind_of_ok`), and what a failed step has done stays done
(`run_bind_of_error`, `run_tryCatch_of_error`).
-/

namespace ModuleContainers.Outcome

variable {ε α β : Type}

theorem bind_eq_ok {x : Except ε α} {f : α → Except ε β} {b : β} :
    (x >>= f) = .ok b ↔ ∃ a, x = .ok a ∧ f a = .ok b := by
  cases x <;> simp [bind, Except.bind]

/-- A check gives nothing but its success. -/
theorem check_eq_ok {x : Except ε Unit} {f : Unit → Except ε β} {b : β} :
    (x >>= f) = .ok b ↔ x = .ok () ∧ f () = .ok b :=
  bind_eq_ok.trans ⟨fun ⟨_, h⟩ => h, fun h => ⟨(), h⟩⟩

theorem bind_eq_error {x : Except ε α} {f : α → Except ε β} {e : ε} :
    (x >>= f) = .error e ↔ x = .error e ∨ ∃ a, x = .ok a ∧ f a = .error e := by
  cases x <;> simp [bind, Except.bind]

theorem map_eq_ok {x : Except ε α} {f : α → β} {b : β} :
    x.map f = .ok b ↔ ∃ a, x = .ok a ∧ f a = b := by
  cases x <;> simp [Except.map]

theorem mapError_eq_ok {δ : Type} {x : Except ε α} {wrap : ε → δ} {a : α} :
    x.mapError wrap = .ok a ↔ x = .ok a := by
  cases x <;> simp [Except.mapError]

theorem pure_eq_ok {a b : α} : (pure a : Except ε α) = .ok b ↔ a = b := by
  simp [pure, Except.pure]

theorem exists_of_isOk {x : Except ε α} (h : x.isOk = true) : ∃ a, x = .ok a := by
  cases x with
  | error e => cases h
  | ok a => exact ⟨a, rfl⟩

theorem fails_iff {x : Except ε α} : (∃ e, x = .error e) ↔ ¬ ∃ a, x = .ok a := by
  cases x <;> simp

/-- A list of steps succeeds with what each of them gives. -/
theorem mapM_eq_ok {f : α → Except ε β} :
    ∀ {xs : List α} {ys : List β},
      xs.mapM f = .ok ys ↔ List.Forall₂ (fun x y => f x = .ok y) xs ys
  | [], ys => by rw [List.mapM_nil, pure_eq_ok, List.forall₂_nil_left_iff, eq_comm]
  | x :: xs, ys => by
      rw [List.mapM_cons, bind_eq_ok, List.forall₂_cons_left_iff]
      constructor
      · rintro ⟨y, hy, h⟩
        obtain ⟨rest, hrest, h⟩ := bind_eq_ok.mp h
        exact ⟨y, rest, hy, mapM_eq_ok.mp hrest, (pure_eq_ok.mp h).symm⟩
      · rintro ⟨y, rest, hy, hrest, rfl⟩
        exact ⟨y, hy, bind_eq_ok.mpr ⟨rest, mapM_eq_ok.mpr hrest, rfl⟩⟩

/-- What every step gives is given by a list of steps. -/
theorem forall_of_mapM {f : α → Except ε β} {P : β → Prop} (h : ∀ {x y}, f x = .ok y → P y)
    {xs : List α} {ys : List β} (hmap : xs.mapM f = .ok ys) : ∀ y ∈ ys, P y := by
  have hall := mapM_eq_ok.mp hmap
  clear hmap
  induction hall with
  | nil => simp
  | cons hxy _ ih => exact List.forall_mem_cons.mpr ⟨h hxy, ih⟩

/-- Where all items are mapped, each of them is. -/
theorem exists_of_mapM {f : α → Except ε β} {xs : List α} {ys : List β}
    (hmap : xs.mapM f = .ok ys) : ∀ x ∈ xs, ∃ y, f x = .ok y := by
  have hall := mapM_eq_ok.mp hmap
  clear hmap
  induction hall with
  | nil => simp
  | cons hxy _ ih => exact List.forall_mem_cons.mpr ⟨⟨_, hxy⟩, ih⟩

theorem mapM_succeeds {f : α → Except ε β} :
    ∀ {xs : List α}, (∀ x ∈ xs, ∃ y, f x = .ok y) → ∃ ys, xs.mapM f = .ok ys
  | [], _ => ⟨[], rfl⟩
  | x :: xs, h => by
      obtain ⟨y, hy⟩ := h x (List.mem_cons_self ..)
      obtain ⟨ys, hys⟩ := mapM_succeeds fun x' hx' => h x' (List.mem_cons_of_mem _ hx')
      exact ⟨y :: ys, by rw [List.mapM_cons, hy, hys]; rfl⟩

/-- A list of steps fails at the first step that does. -/
theorem mapM_eq_error {f : α → Except ε β} {e : ε} :
    ∀ {xs : List α}, xs.mapM f = .error e ↔
      ∃ earlier x later, xs = earlier ++ x :: later ∧ (∀ y ∈ earlier, ∃ z, f y = .ok z)
        ∧ f x = .error e
  | [] => by simp [pure, Except.pure]
  | x :: xs => by
      rw [List.mapM_cons, bind_eq_error]
      constructor
      · rintro (hfirst | ⟨y, hy, h⟩)
        · exact ⟨[], x, xs, rfl, by simp, hfirst⟩
        · obtain hrest | ⟨ys, -, hpure⟩ := bind_eq_error.mp h
          · obtain ⟨earlier, x', later, rfl, hearlier, hfail⟩ := mapM_eq_error.mp hrest
            have hall := List.forall_mem_cons.mpr ⟨⟨y, hy⟩, hearlier⟩
            exact ⟨x :: earlier, x', later, rfl, hall, hfail⟩
          · cases hpure
      · rintro ⟨earlier, x', later, hxs, hearlier, hfail⟩
        cases earlier with
        | nil =>
            obtain ⟨rfl, -⟩ := List.cons.inj hxs
            exact .inl hfail
        | cons first earlier =>
            obtain ⟨rfl, rfl⟩ := List.cons.inj hxs
            obtain ⟨⟨y, hy⟩, hearlier⟩ := List.forall_mem_cons.mp hearlier
            have hrest := mapM_eq_error.mpr ⟨earlier, x', later, rfl, hearlier, hfail⟩
            exact .inr ⟨y, hy, bind_eq_error.mpr (.inl hrest)⟩

theorem mapM_congr {f g : α → Except ε β} {xs ys : List α}
    (h : List.Forall₂ (fun x y => f x = g y) xs ys) : xs.mapM f = ys.mapM g := by
  induction h with
  | nil => rfl
  | cons hxy _ ih => rw [List.mapM_cons, List.mapM_cons, hxy, ih]

/-! ## Steps that change a state -/

section State

variable {σ : Type} {step : ExceptT ε (StateM σ) α} {before between : σ} {a : α} {e : ε}

theorem run_bind_of_ok {next : α → ExceptT ε (StateM σ) β}
    (h : step.run.run before = (.ok a, between)) :
    (step >>= next).run.run before = (next a).run.run between := by
  rw [ExceptT.run_bind, StateT.run_bind, h]
  rfl

theorem run_bind_of_error {next : α → ExceptT ε (StateM σ) β}
    (h : step.run.run before = (.error e, between)) :
    (step >>= next).run.run before = (.error e, between) := by
  rw [ExceptT.run_bind, StateT.run_bind, h]
  rfl

variable {handler : ε → ExceptT ε (StateM σ) α}

theorem run_tryCatch_of_ok (h : step.run.run before = (.ok a, between)) :
    (tryCatch step handler).run.run before = (.ok a, between) := by
  rw [ExceptT.run_tryCatch, StateT.run_bind, h]
  rfl

theorem run_tryCatch_of_error (h : step.run.run before = (.error e, between)) :
    (tryCatch step handler).run.run before = (handler e).run.run between := by
  rw [ExceptT.run_tryCatch, StateT.run_bind, h]
  rfl

end State

end ModuleContainers.Outcome
