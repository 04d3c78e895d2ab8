/-!
# Sets of characters as ranges of code points

A character property of the Unicode standard is a set of code points, and the
standard publishes such a set as a list of inclusive ranges. A `Ranges` is that
list in ascending order. Membership walks the list and stops at the first range
that lies above the character, so the common case - a character of the first
few ranges, or below them - looks at no more than those.
-/

namespace ModuleContainers.Text

/-- Inclusive ranges of code points, disjoint and in ascending order. -/
abbrev Ranges := List (Nat × Nat)

def Ranges.has : Ranges → Char → Bool
  | [], _ => false
  | (low, high) :: rest, c =>
      if c.toNat < low then false
      else if c.toNat ≤ high then true
      else Ranges.has rest c

/-- What `has` says is a fact about one of the ranges: the early stop never
turns a stranger into a member. -/
theorem Ranges.exists_of_has {c : Char} :
    ∀ {table : Ranges}, table.has c = true →
      ∃ r ∈ table, r.1 ≤ c.toNat ∧ c.toNat ≤ r.2
  | (low, high) :: rest, h => by
      rw [Ranges.has] at h
      split at h
      · cases h
      · split at h
        · exact ⟨(low, high), List.mem_cons_self .., by simp only []; omega, by assumption⟩
        · obtain ⟨r, hr, hin⟩ := Ranges.exists_of_has h
          exact ⟨r, List.mem_cons_of_mem _ hr, hin⟩

end ModuleContainers.Text
