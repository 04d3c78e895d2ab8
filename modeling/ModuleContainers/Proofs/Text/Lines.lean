import Mathlib.Data.List.Chain
import ModuleContainers.Proofs.Text.Splitting

/-!
# Tidy texts

A text is tidy if no line of it ends with blanks, there are no two blank lines in a
row and none at the start, no carriage return, and one line break at the end
(`Tidy`).

Whether a text is tidy shows when it is read from its start: all that has to be known
is whether a line has begun, and with what it or the line above it ended (`Place`).
Reading fails at the first character that makes the text untidy, so a text that is
read to its end is tidy (`tidy_of_readAll`). Unlike the property of the whole, reading
goes piece by piece (`readAll_append`).
-/

namespace ModuleContainers.Text

/-! ## Tidy texts -/

structure Tidy (text : String) : Prop where
  no_return : '\r' ∉ text.toList
  no_trailing_blanks : ∀ line ∈ splitOn '\n' text, trimEnd line = line
  first_not_blank : ∀ line ∈ (splitOn '\n' text).head?, isBlankText line = false
  no_blank_pair : (splitOn '\n' text).IsChain fun line next =>
    ¬ (isBlankText line = true ∧ isBlankText next = true)
  one_break_at_end : ∃ before c, text.toList = before ++ [c, '\n'] ∧ c ≠ '\n'

/-! ## Reading -/

/-- Where one is in a text that was tidy so far. -/
inductive Place where
  /-- At the start of a line, with an empty line or nothing above it. -/
  | blank
  /-- At the start of a line, with a line above it that is not empty. -/
  | ended
  /-- On a line, behind a character that is not blank. -/
  | solid
  /-- On a line, behind a blank. -/
  | loose
  deriving Repr, DecidableEq

namespace Place

/-- No line has been begun. -/
def fresh : Place → Bool
  | .blank | .ended => true
  | .solid | .loose => false

/-- The place behind a line break; nothing where a line cannot end. -/
def newline : Place → Option Place
  | .solid => some .ended
  | .ended => some .blank
  | .blank | .loose => none

def read (place : Place) (c : Char) : Option Place :=
  if c = '\n' then place.newline
  else if c = '\r' then none
  else if isBlank c then some .loose
  else some .solid

def readAll : Place → List Char → Option Place
  | place, [] => some place
  | place, c :: rest => (place.read c).bind fun next => next.readAll rest

variable {place next last : Place} {a b text : List Char}

theorem readAll_append (place : Place) (a b : List Char) :
    place.readAll (a ++ b) = (place.readAll a).bind fun next => next.readAll b := by
  induction a generalizing place with
  | nil => rfl
  | cons c rest ih =>
      simp only [List.cons_append, readAll]
      cases place.read c with
      | none => rfl
      | some next => exact ih next

theorem readAll_append_of (ha : place.readAll a = some next) (hb : next.readAll b = some last) :
    place.readAll (a ++ b) = some last := by
  rw [readAll_append, ha]
  exact hb

end Place

/-- The place behind a part of a line, which depends on its last character only. -/
def endOf (text : List Char) : Option Place :=
  text.getLast?.map fun c => if isBlank c then .loose else .solid

theorem endOf_append (a : List Char) {b : List Char} {place : Place} (h : endOf b = some place) :
    endOf (a ++ b) = some place := by
  cases b with
  | nil => cases h
  | cons c rest => rwa [endOf, List.getLast?_append_of_ne_nil _ (List.cons_ne_nil c rest)]

variable {place last : Place} {text : List Char}

theorem read_of_line {c : Char} (hn : c ≠ '\n') (hr : c ≠ '\r') :
    place.read c = endOf [c] := by
  rw [Place.read, if_neg hn, if_neg hr]
  simp only [endOf, List.getLast?_singleton, Option.map_some]
  split <;> rfl

/-- A part of a line is read from anywhere. -/
theorem readAll_of_line (hline : ∀ c ∈ text, c ≠ '\n' ∧ c ≠ '\r') (hend : endOf text = some last) :
    place.readAll text = some last := by
  induction text generalizing place with
  | nil => cases hend
  | cons c rest ih =>
      obtain ⟨hn, hr⟩ := hline c (List.mem_cons_self ..)
      cases rest with
      | nil =>
          rw [Place.readAll, read_of_line hn hr, hend]
          rfl
      | cons d more =>
          obtain ⟨next, hnext⟩ : ∃ next, endOf [c] = some next := ⟨_, rfl⟩
          rw [Place.readAll, read_of_line hn hr, hnext]
          exact ih (fun e he => hline e (List.mem_cons_of_mem _ he)) hend

/-- What is known of a part of a line that has been read. -/
theorem line_of_readAll (hline : '\n' ∉ text) (h : place.readAll text = some last) :
    '\r' ∉ text ∧ (text = [] ∧ last = place ∨ endOf text = some last) := by
  induction text generalizing place with
  | nil => exact ⟨by simp, .inl ⟨rfl, (Option.some.inj h).symm⟩⟩
  | cons c rest ih =>
      obtain ⟨next, hread, hrest⟩ := Option.bind_eq_some_iff.mp h
      have hn : c ≠ '\n' := fun heq => hline (heq ▸ List.mem_cons_self ..)
      have hr : c ≠ '\r' := by
        rintro rfl
        simp [Place.read] at hread
      rw [read_of_line hn hr] at hread
      obtain ⟨hreturn, hlast⟩ := ih (fun hmem => hline (List.mem_cons_of_mem _ hmem)) hrest
      refine ⟨by simp [hreturn, hr.symm], .inr ?_⟩
      rcases hlast with ⟨rfl, rfl⟩ | hend
      · exact hread
      · exact endOf_append [c] hend

/-! ## What has been read is tidy -/

theorem dropEnd_eq_of_endOf (h : endOf text = some .solid) : dropEnd text = text := by
  obtain ⟨c, hc, hplace⟩ := Option.map_eq_some_iff.mp h
  obtain ⟨before, rfl⟩ := List.getLast?_eq_some_iff.mp hc
  have hblank : isBlank c = false := by
    by_contra hblank
    simp [hblank] at hplace
  simp [dropEnd, hblank]

theorem all_isBlank_eq_false_of_endOf (h : endOf text = some .solid) :
    text.all isBlank = false := by
  obtain ⟨c, hc, hplace⟩ := Option.map_eq_some_iff.mp h
  by_contra hall
  have hblank := List.all_eq_true.mp (Bool.of_not_eq_false hall) c (List.mem_of_getLast? hc)
  simp [hblank] at hplace

/-- The condition on two lines in a row. -/
def ApartFrom (line next : List Char) : Prop :=
  ¬ (line.all isBlank = true ∧ next.all isBlank = true)

/-- A line that has been read from its start to its line break. -/
theorem line_of_newline {middle next : Place} (hline : '\n' ∉ text) (hfresh : place.fresh = true)
    (hread : place.readAll text = some middle) (hbreak : middle.newline = some next) :
    '\r' ∉ text ∧ dropEnd text = text ∧ next.fresh = true
      ∧ (next = .blank ↔ text.all isBlank = true)
      ∧ (text.all isBlank = true → place ≠ .blank) := by
  obtain ⟨hreturn, ⟨rfl, rfl⟩ | hend⟩ := line_of_readAll hline hread
  · -- The line is empty, so there was a line above it that is not.
    cases middle with
    | blank => cases hbreak
    | ended =>
        obtain rfl := Option.some.inj hbreak
        simp [dropEnd, Place.fresh]
    | solid | loose => cases hfresh
  · have hsolid : middle = .solid := by
      cases middle with
      | solid => rfl
      | loose => cases hbreak
      | blank | ended =>
          obtain ⟨c, -, hplace⟩ := Option.map_eq_some_iff.mp hend
          split at hplace <;> cases hplace
    subst hsolid
    obtain rfl := Option.some.inj hbreak
    have hfull := all_isBlank_eq_false_of_endOf hend
    exact ⟨hreturn, dropEnd_eq_of_endOf hend, rfl, by simp [hfull], by simp [hfull]⟩

/-- The lines of a text that has been read from the start of a line to the start of
another. Of the line above the text only is known whether it is blank. -/
theorem lines_of_readAll {lines : List (List Char)} (hne : lines ≠ [])
    (hlines : ∀ line ∈ lines, '\n' ∉ line) (above : List Char) (hfresh : place.fresh = true)
    (habove : above.all isBlank = true → place = .blank)
    (h : place.readAll (['\n'].intercalate lines) = some .ended) :
    (∀ line ∈ lines, '\r' ∉ line ∧ dropEnd line = line)
      ∧ (above :: lines).IsChain ApartFrom := by
  induction lines generalizing place above with
  | nil => exact absurd rfl hne
  | cons line rest ih =>
      have hline := hlines line (List.mem_cons_self ..)
      cases rest with
      | nil =>
          -- The last line is empty, because nothing has been begun on it.
          rw [List.intercalate_singleton] at h
          obtain ⟨hreturn, ⟨rfl, rfl⟩ | hend⟩ := line_of_readAll hline h
          · have hapart : ApartFrom above [] := fun hboth => by cases habove hboth.1
            exact ⟨by simp [dropEnd], .cons_cons hapart (.singleton _)⟩
          · obtain ⟨c, -, hplace⟩ := Option.map_eq_some_iff.mp hend
            split at hplace <;> cases hplace
      | cons second more =>
          rw [List.intercalate_cons_cons, List.append_assoc, Place.readAll_append] at h
          obtain ⟨middle, hmiddle, h⟩ := Option.bind_eq_some_iff.mp h
          obtain ⟨next, hbreak, h⟩ := Option.bind_eq_some_iff.mp h
          obtain ⟨hreturn, htrimmed, hnext, hblank, hplace⟩ :=
            line_of_newline hline hfresh hmiddle hbreak
          have hmore : ∀ other ∈ second :: more, '\n' ∉ other := fun other hother =>
            hlines other (List.mem_cons_of_mem _ hother)
          obtain ⟨hrest, hchain⟩ :=
            ih (List.cons_ne_nil second more) hmore line hnext hblank.mpr h
          have hapart : ApartFrom above line := fun hboth => hplace hboth.2 (habove hboth.1)
          exact ⟨List.forall_mem_cons.mpr ⟨⟨hreturn, htrimmed⟩, hrest⟩, .cons_cons hapart hchain⟩

theorem exists_of_readAll (h : place.readAll text = some last) (hne : place ≠ last) :
    ∃ before middle c, text = before ++ [c] ∧ place.readAll before = some middle
      ∧ middle.read c = some last := by
  rcases List.eq_nil_or_concat text with rfl | ⟨before, c, rfl⟩
  · exact absurd (Option.some.inj h) hne
  · rw [List.concat_eq_append, Place.readAll_append] at h
    obtain ⟨middle, hmiddle, h⟩ := Option.bind_eq_some_iff.mp h
    obtain ⟨next, hread, h⟩ := Option.bind_eq_some_iff.mp h
    obtain rfl := Option.some.inj h
    exact ⟨before, middle, c, List.concat_eq_append, hmiddle, hread⟩

theorem read_eq_ended {c : Char} (h : place.read c = some .ended) :
    c = '\n' ∧ place = .solid := by
  unfold Place.read at h
  split at h
  · next hbreak => cases place <;> cases h; exact ⟨hbreak, rfl⟩
  · split at h
    · cases h
    · split at h <;> cases h

theorem ne_of_read_eq_solid {c : Char} (h : place.read c = some .solid) : c ≠ '\n' := by
  rintro rfl
  cases place <;> cases h

/-- The last line break has a character in front of it that is none. -/
theorem break_of_readAll (h : Place.readAll .blank text = some .ended) :
    ∃ before c, text = before ++ [c, '\n'] ∧ c ≠ '\n' := by
  obtain ⟨line, middle, c, rfl, hline, hread⟩ := exists_of_readAll h (by decide)
  obtain ⟨rfl, rfl⟩ := read_eq_ended hread
  obtain ⟨before, _, c, rfl, -, hsolid⟩ := exists_of_readAll hline (by decide)
  exact ⟨before, c, by simp, ne_of_read_eq_solid hsolid⟩

/-- A text is tidy if it is read to the start of a line, behind one that is not
empty. -/
theorem tidy_of_readAll {text : String} (h : Place.readAll .blank text.toList = some .ended) :
    Tidy text := by
  have hwhole : ['\n'].intercalate (text.toList.splitOn '\n') = text.toList :=
    List.intercalate_splitOn '\n'
  have hread := h
  rw [← hwhole] at hread
  have hne := List.splitOn_ne_nil '\n' text.toList
  have hlines : ∀ line ∈ text.toList.splitOn '\n', '\n' ∉ line := fun line hline =>
    not_mem_of_mem_splitOn hline
  obtain ⟨hclean, hchain⟩ := lines_of_readAll hne hlines [] rfl (fun _ => rfl) hread
  refine ⟨?_, ?_, ?_, ?_, break_of_readAll h⟩
  · intro hreturn
    rw [← hwhole] at hreturn
    rcases mem_intercalate_singleton hreturn with hbreak | ⟨line, hline, hmem⟩
    · cases hbreak
    · exact (hclean line hline).1 hmem
  · intro line hline
    obtain ⟨piece, hpiece, rfl⟩ := List.mem_map.mp hline
    rw [trimEnd, String.toList_ofList, (hclean piece hpiece).2]
  · intro line hline
    cases hlines : text.toList.splitOn '\n' with
    | nil => exact absurd hlines hne
    | cons first rest =>
        rw [hlines] at hchain
        obtain ⟨hapart, -⟩ := List.isChain_cons_cons.mp hchain
        obtain rfl : String.ofList first = line := by simpa [splitOn, hlines] using hline
        simpa [ApartFrom, isBlankText] using hapart
  · have htail : (text.toList.splitOn '\n').IsChain ApartFrom := hchain.tail
    rw [splitOn, List.isChain_map]
    exact htail.imp fun line next hapart => by simpa only [isBlankText, String.toList_ofList]

end ModuleContainers.Text
