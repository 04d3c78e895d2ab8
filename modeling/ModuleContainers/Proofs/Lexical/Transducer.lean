/-!
# Reading one item at a time

A compiler reads a source text in stages, and each stage looks at one item after
the other: it remembers a state, and every item gives some output and the next
state. A `Transducer` is such a stage. It may refuse an item, and it may refuse
the end of the text.

Two facts carry everything that is said about source texts here:

- **splitting** (`feed_append`, `run_append`): reading a text is reading its first
  part and then its second part from the state the first part leaves;
- **composition** (`feed_compose`, `run_compose`): running one stage on the whole
  output of another is running the two side by side (`compose`), so a text need
  not be cut between the stages.
-/

namespace ModuleContainers.Lexical

/-- A stage of reading: from items `α` to outputs `β`, with states `σ`. -/
structure Transducer (α β σ : Type) where
  /-- What an item gives in a state, and the state after it. -/
  step : σ → α → Option (List β × σ)
  /-- What the end of the text gives in a state. -/
  finish : σ → Option (List β)

namespace Transducer

variable {α β γ σ τ : Type}

/-- Reads the items of a part of a text: the output and the state after them. -/
def feed (t : Transducer α β σ) : σ → List α → Option (List β × σ)
  | s, [] => some ([], s)
  | s, a :: rest =>
      (t.step s a).bind fun first =>
        (t.feed first.2 rest).map fun last => (first.1 ++ last.1, last.2)

/-- Reads a whole text. -/
def run (t : Transducer α β σ) : σ → List α → Option (List β)
  | s, [] => t.finish s
  | s, a :: rest =>
      (t.step s a).bind fun first => (t.run first.2 rest).map (first.1 ++ ·)

/-! ## Splitting -/

@[simp] theorem feed_nil (t : Transducer α β σ) (s : σ) : t.feed s [] = some ([], s) := rfl

theorem feed_append (t : Transducer α β σ) (s : σ) (xs ys : List α) :
    t.feed s (xs ++ ys) =
      (t.feed s xs).bind fun first =>
        (t.feed first.2 ys).map fun last => (first.1 ++ last.1, last.2) := by
  induction xs generalizing s with
  | nil => cases h : t.feed s ys <;> simp [h]
  | cons x xs ih =>
      simp only [List.cons_append, feed]
      cases t.step s x with
      | none => rfl
      | some first =>
          simp only [Option.bind_some, ih]
          cases t.feed first.2 xs with
          | none => rfl
          | some middle =>
              simp only [Option.bind_some, Option.map_some]
              cases t.feed middle.2 ys <;> simp

theorem run_append (t : Transducer α β σ) (s : σ) (xs ys : List α) :
    t.run s (xs ++ ys) =
      (t.feed s xs).bind fun first => (t.run first.2 ys).map (first.1 ++ ·) := by
  induction xs generalizing s with
  | nil => cases h : t.run s ys <;> simp [h]
  | cons x xs ih =>
      simp only [List.cons_append, feed, run]
      cases t.step s x with
      | none => rfl
      | some first =>
          simp only [Option.bind_some, ih]
          cases t.feed first.2 xs with
          | none => rfl
          | some middle =>
              simp only [Option.bind_some, Option.map_some]
              cases t.run middle.2 ys <;> simp

theorem run_cons_of_step {t : Transducer α β σ} {s s' : σ} {a : α} {out : List β}
    (h : t.step s a = some (out, s')) (rest : List α) :
    t.run s (a :: rest) = (t.run s' rest).map (out ++ ·) := by
  rw [run, h]
  rfl

/-- An item without an output only changes the state. -/
theorem run_cons_of_silent {t : Transducer α β σ} {s s' : σ} {a : α}
    (h : t.step s a = some ([], s')) (rest : List α) : t.run s (a :: rest) = t.run s' rest := by
  rw [run_cons_of_step h]
  simp

/-- A part that is read is out of the way of what follows it. -/
theorem feed_append_of_feed {t : Transducer α β σ} {s s' s'' : σ} {xs ys : List α}
    {out more : List β} (hx : t.feed s xs = some (out, s'))
    (hy : t.feed s' ys = some (more, s'')) :
    t.feed s (xs ++ ys) = some (out ++ more, s'') := by
  simp [feed_append, hx, hy]

theorem run_of_feed {t : Transducer α β σ} {s s' : σ} {xs : List α} {out last : List β}
    (hx : t.feed s xs = some (out, s')) (hs : t.finish s' = some last) :
    t.run s xs = some (out ++ last) := by
  have h := t.run_append s xs []
  rw [List.append_nil] at h
  simp [h, hx, run, hs]

/-! ## Composition -/

/-- Two stages side by side: whatever the first one gives is read by the second
one at once. -/
def compose (t : Transducer α β σ) (u : Transducer β γ τ) : Transducer α γ (σ × τ) where
  step s a :=
    (t.step s.1 a).bind fun first =>
      (u.feed s.2 first.1).map fun second => (second.1, (first.2, second.2))
  finish s := (t.finish s.1).bind (u.run s.2)

theorem feed_compose (t : Transducer α β σ) (u : Transducer β γ τ) (s : σ) (s' : τ)
    (xs : List α) :
    (t.compose u).feed (s, s') xs =
      (t.feed s xs).bind fun first =>
        (u.feed s' first.1).map fun second => (second.1, (first.2, second.2)) := by
  induction xs generalizing s s' with
  | nil => rfl
  | cons x xs ih =>
      simp only [compose] at ih
      simp only [feed, compose]
      cases t.step s x with
      | none => rfl
      | some first =>
          simp only [Option.bind_some]
          have hsplit : ∀ rest, u.feed s' (first.1 ++ rest) = _ := u.feed_append s' first.1
          cases hfeed : u.feed s' first.1 with
          | none => cases h : t.feed first.2 xs <;> simp [hsplit, hfeed]
          | some second =>
              simp only [Option.map_some, Option.bind_some, ih]
              cases t.feed first.2 xs with
              | none => rfl
              | some more =>
                  simp only [Option.bind_some, Option.map_some, hsplit, hfeed]
                  cases u.feed second.2 more.1 <;> rfl

/-- What the first stage gives is read by the second one. -/
theorem feed_compose_of_feed {t : Transducer α β σ} {u : Transducer β γ τ} {s r : σ} {s' r' : τ}
    {xs : List α} {ys : List β} {out : List γ} (ht : t.feed s xs = some (ys, r))
    (hu : u.feed s' ys = some (out, r')) :
    (t.compose u).feed (s, s') xs = some (out, (r, r')) := by
  simp [feed_compose, ht, hu]

theorem run_compose (t : Transducer α β σ) (u : Transducer β γ τ) (s : σ) (s' : τ)
    (xs : List α) :
    (t.compose u).run (s, s') xs = (t.run s xs).bind (u.run s') := by
  induction xs generalizing s s' with
  | nil => rfl
  | cons x xs ih =>
      simp only [run, compose]
      cases t.step s x with
      | none => rfl
      | some first =>
          simp only [Option.bind_some]
          have hsplit : ∀ rest, u.run s' (first.1 ++ rest) = _ := u.run_append s' first.1
          cases hfeed : u.feed s' first.1 with
          | none => cases h : t.run first.2 xs <;> simp [hsplit, hfeed]
          | some second =>
              have hrest := ih first.2 second.2
              simp only [compose] at hrest
              simp only [Option.map_some, Option.bind_some, hrest]
              cases t.run first.2 xs <;> simp [hsplit, hfeed]

end Transducer

end ModuleContainers.Lexical
