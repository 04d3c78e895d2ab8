import ModuleContainers.Java.ClassName
import ModuleContainers.Proofs.Text.Splitting

/-!
# What reading a class name gives

A name in source is a path: identifiers with dots between them. A class name
that was read is well formed (`ClassName.WellFormed`): it is made of identifiers,
and none of its package looks like a class. So every way to write it is a path
again (`WellFormed.isPath_nestedPath`, `WellFormed.isPath_canonical`).

`ofCharacters_eq_ok` says what exactly a text has to be to name a class. Two
things follow from it: a class that was read is well formed (`wellFormed_of_parse`),
and a class whose outermost name has an uppercase initial is read back from its
canonical name (`parse_canonical`).
-/

namespace ModuleContainers.Java

/-! ## Identifiers -/

theorem isIdentifierPart_of_start {c : Char} (h : isIdentifierStart c = true) :
    isIdentifierPart c = true := by
  simp only [isIdentifierStart, Bool.or_eq_true] at h
  rcases h with (h | h) | h <;> simp [isIdentifierPart, h]

theorem isIdentifier_shape {text : String} (h : isIdentifier text = true) :
    hasIdentifierShape text.toList = true := by
  simp only [isIdentifier, Bool.and_eq_true] at h
  exact h.1

/-- Every character of an identifier may go on with one. -/
theorem isIdentifierPart_of_mem {text : List Char} (h : hasIdentifierShape text = true) :
    ∀ c ∈ text, isIdentifierPart c = true := by
  cases text with
  | nil => simp
  | cons first rest =>
      simp only [hasIdentifierShape, Bool.and_eq_true, List.all_eq_true] at h
      intro c hc
      rcases List.mem_cons.mp hc with rfl | hc
      · exact isIdentifierPart_of_start h.1
      · exact h.2 c hc

theorem not_mem_of_hasIdentifierShape {text : List Char} (h : hasIdentifierShape text = true)
    {c : Char} (hc : isIdentifierPart c = false) : c ∉ text := fun hmem => by
  rw [isIdentifierPart_of_mem h c hmem] at hc
  cases hc

theorem ne_nil_of_hasIdentifierShape {text : List Char} (h : hasIdentifierShape text = true) :
    text ≠ [] := by
  rintro rfl
  cases h

theorem dot_not_mem {text : String} (h : isIdentifier text = true) : '.' ∉ text.toList :=
  not_mem_of_hasIdentifierShape (isIdentifier_shape h) (by decide)

/-- No blank is part of an identifier. -/
theorem not_isBlank_of_isIdentifierPart {c : Char} (h : isIdentifierPart c = true) :
    Text.isBlank c = false := by
  have htable : ∀ n ∈ Text.blankRanges.flatMap fun r => List.range' r.1 (r.2 + 1 - r.1),
      isIdentifierPart (Char.ofNat n) = false := by decide +kernel
  by_contra hblank
  obtain ⟨r, hr, hlow, hhigh⟩ := Text.Ranges.exists_of_has (Bool.of_not_eq_false hblank)
  have hpart := htable c.toNat (List.mem_flatMap.mpr ⟨r, hr, List.mem_range'_1.mpr (by omega)⟩)
  rw [Char.ofNat_toNat, h] at hpart
  cases hpart

/-! ## Paths -/

/-- Identifiers with dots between them. -/
def IsPath (text : String) : Prop := ∀ part ∈ Text.splitOn '.' text, isIdentifier part = true

theorem splitOn_intercalate {parts : List String} (hdot : ∀ part ∈ parts, '.' ∉ part.toList)
    (hne : parts ≠ []) : Text.splitOn '.' (String.intercalate "." parts) = parts :=
  Text.splitOn_intercalate rfl hdot hne

theorem splitOn_append_dot (a b : String) :
    Text.splitOn '.' (a ++ "." ++ b) = Text.splitOn '.' a ++ Text.splitOn '.' b := by
  simp [Text.splitOn, List.splitOn_append_cons_self]

theorem isPath_intercalate {parts : List String} (h : ∀ part ∈ parts, isIdentifier part = true)
    (hne : parts ≠ []) : IsPath (String.intercalate "." parts) := by
  rw [IsPath, splitOn_intercalate (fun part hp => dot_not_mem (h part hp)) hne]
  exact h

theorem IsPath.ne_empty {text : String} (h : IsPath text) : text ≠ "" := by
  rintro rfl
  have hpart := h "" (by decide)
  revert hpart
  decide

theorem not_isBlank_of_mem_path {text : String} (h : IsPath text) :
    ∀ c ∈ text.toList, Text.isBlank c = false := by
  intro c hc
  have hwhole : ['.'].intercalate (text.toList.splitOn '.') = text.toList :=
    List.intercalate_splitOn '.'
  rw [← hwhole] at hc
  obtain rfl | ⟨part, hpart, hc⟩ := Text.mem_intercalate_singleton hc
  · decide
  · have hshape := isIdentifier_shape (h (String.ofList part) (List.mem_map_of_mem hpart))
    rw [String.toList_ofList] at hshape
    exact not_isBlank_of_isIdentifierPart (isIdentifierPart_of_mem hshape c hc)

namespace ClassName

theorem eq_of_names {c d : ClassName} (hnames : c.names = d.names)
    (hpackage : c.package = d.package) : c = d := by
  obtain ⟨package, outermost, nested⟩ := c
  obtain ⟨package', outermost', nested'⟩ := d
  obtain ⟨rfl, rfl⟩ := List.cons.inj hnames
  obtain rfl := hpackage
  rfl

/-- The names are identifiers without dollar signs, and the package is made of
identifiers that do not look like classes. -/
structure WellFormed (c : ClassName) : Prop where
  package : ∃ parts : List String, c.package = String.intercalate "." parts
    ∧ ∀ part ∈ parts, isIdentifier part = true ∧ startsUppercase part.toList = false
  names : ∀ name ∈ c.names, isIdentifier name = true ∧ '$' ∉ name.toList

theorem WellFormed.dot_not_mem_outermost {c : ClassName} (h : c.WellFormed) :
    '.' ∉ c.outermost.toList :=
  dot_not_mem (h.names _ (List.mem_cons_self ..)).1

theorem canonical_topLevel {c : ClassName} (h : c.package ≠ "") :
    c.topLevel.canonical = c.package ++ "." ++ c.outermost := by
  simp [canonical, topLevel, top, h, nestedPath, names]

theorem WellFormed.isPath_nestedPath {c : ClassName} (h : c.WellFormed) : IsPath c.nestedPath :=
  isPath_intercalate (fun name hn => (h.names name hn).1) (List.cons_ne_nil _ _)

/-- Without its package a class is written by its nested path. -/
theorem WellFormed.withoutPackage {c : ClassName} (h : c.WellFormed) :
    ({ c with package := "" } : ClassName).WellFormed :=
  ⟨⟨[], rfl, by simp⟩, h.names⟩

theorem canonical_eq_intercalate {c : ClassName} {parts : List String}
    (hpackage : c.package = String.intercalate "." parts)
    (hids : ∀ part ∈ parts, isIdentifier part = true) :
    c.canonical = String.intercalate "." (parts ++ c.names) := by
  cases parts with
  | nil => simp [canonical, hpackage, nestedPath]
  | cons first rest =>
      have hpath : IsPath c.package := hpackage ▸ isPath_intercalate hids (by simp)
      have hne : c.package ≠ "" := hpath.ne_empty
      have hnames : c.names ≠ [] := List.cons_ne_nil _ _
      rw [canonical, if_neg hne, nestedPath, hpackage,
        String.intercalate_append_of_ne_nil (List.cons_ne_nil first rest) hnames]

theorem WellFormed.isPath_canonical {c : ClassName} (h : c.WellFormed) : IsPath c.canonical := by
  obtain ⟨parts, hpackage, hparts⟩ := h.package
  rw [canonical_eq_intercalate hpackage fun part hp => (hparts part hp).1]
  refine isPath_intercalate (fun part hp => ?_) (by simp [ClassName.names])
  exact (List.mem_append.mp hp).elim (fun hp => (hparts part hp).1) fun hp => (h.names part hp).1

/-- The packages around a class from the outside in, of which the default package has
none. -/
def packages (c : ClassName) : List String :=
  if c.package = "" then [] else Text.splitOn '.' c.package

theorem WellFormed.packages {c : ClassName} (h : c.WellFormed) :
    c.package = String.intercalate "." c.packages
      ∧ ∀ part ∈ c.packages, isIdentifier part = true ∧ startsUppercase part.toList = false := by
  obtain ⟨parts, hpackage, hparts⟩ := h.package
  have hids : ∀ part ∈ parts, isIdentifier part = true := fun part hp => (hparts part hp).1
  have hfound : c.packages = parts := by
    cases parts with
    | nil => simp [ClassName.packages, hpackage]
    | cons first rest =>
        have hpath : IsPath c.package := hpackage ▸ isPath_intercalate hids (by simp)
        rw [ClassName.packages, if_neg hpath.ne_empty, hpackage,
          splitOn_intercalate (fun part hp => dot_not_mem (hids part hp)) (by simp)]
  rw [hfound]
  exact ⟨hpackage, hparts⟩

theorem WellFormed.canonical_eq {c : ClassName} (h : c.WellFormed) :
    c.canonical = String.intercalate "." (c.packages ++ c.names) :=
  canonical_eq_intercalate h.packages.1 fun part hp => (h.packages.2 part hp).1

/-- The segments of the canonical name are the packages and the names. -/
theorem WellFormed.splitOn_canonical {c : ClassName} (h : c.WellFormed) :
    Text.splitOn '.' c.canonical = c.packages ++ c.names := by
  rw [h.canonical_eq]
  refine splitOn_intercalate (fun part hp => dot_not_mem ?_) (by simp [ClassName.names])
  exact (List.mem_append.mp hp).elim (fun hp => (h.packages.2 part hp).1)
    fun hp => (h.names part hp).1

/-! ## Reading -/

theorem ofCharacters_eq_ok {text : List Char} {c : ClassName} :
    ofCharacters text = .ok c ↔
      [] ∉ text.splitOn '.'
        ∧ c.names = ((cutPackage (text.splitOn '.')).2.flatMap (List.splitOn '$')).map String.ofList
        ∧ c.package
          = String.intercalate "." ((cutPackage (text.splitOn '.')).1.map String.ofList)
        ∧ (∀ name ∈ c.names, isIdentifier name = true)
        ∧ ∀ part ∈ (cutPackage (text.splitOn '.')).1, isIdentifier (String.ofList part) = true := by
  obtain ⟨package, outermost, nested⟩ := c
  by_cases hnil : text = []
  · simp [ofCharacters, hnil]
  by_cases hempty : [] ∈ text.splitOn '.'
  · simp [ofCharacters, hnil, hempty]
  simp only [ofCharacters, hnil, hempty, if_false, not_false_eq_true, true_and]
  generalize cutPackage (text.splitOn '.') = cut
  obtain ⟨packageParts, typeParts⟩ := cut
  simp only [names]
  generalize (typeParts.flatMap (List.splitOn '$')).map String.ofList = found
  cases hbad : found.find? (fun part => !isIdentifier part) with
  | some part =>
      have hpart := List.find?_some hbad
      have hmem := List.mem_of_find?_eq_some hbad
      simp only [reduceCtorEq, false_iff]
      rintro ⟨rfl, -, hall, -⟩
      simp [hall part hmem] at hpart
  | none =>
      have hall : ∀ part ∈ found, isIdentifier part = true := by simpa using hbad
      cases hbad' : (packageParts.map String.ofList).find? (fun part => !isIdentifier part) with
      | some part =>
          have hpart := List.find?_some hbad'
          obtain ⟨chars, hmem, rfl⟩ := List.mem_map.mp (List.mem_of_find?_eq_some hbad')
          simp only [reduceCtorEq, false_iff]
          rintro ⟨-, -, -, hall'⟩
          simp [hall' chars hmem] at hpart
      | none =>
          have hall' : ∀ part ∈ packageParts, isIdentifier (String.ofList part) = true := by
            simpa using hbad'
          cases found with
          | nil => simp
          | cons first rest =>
              simp only [Except.ok.injEq, mk.injEq, List.cons.injEq]
              constructor
              · rintro ⟨rfl, rfl, rfl⟩
                exact ⟨⟨rfl, rfl⟩, rfl, hall, hall'⟩
              · rintro ⟨⟨rfl, rfl⟩, rfl, -, -⟩
                exact ⟨rfl, rfl, rfl⟩

theorem parse_eq_ok {name : String} {c : ClassName} :
    parse name = .ok c ↔ ofCharacters (Text.dropEnds name.toList) = .ok c := by
  unfold parse
  cases ofCharacters (Text.dropEnds name.toList) <;> simp [Except.mapError]

/-! ## Where the package ends -/

theorem cutPackage_append (segments : List (List Char)) :
    (cutPackage segments).1 ++ (cutPackage segments).2 = segments := by
  unfold cutPackage
  rw [List.span_eq_takeWhile_dropWhile]
  have hsplit := List.takeWhile_append_dropWhile (p := fun s => !startsUppercase s) (l := segments)
  split
  · next lower heq =>
      obtain ⟨rfl, hrest⟩ := Prod.mk.inj heq
      rw [hrest, List.append_nil] at hsplit
      rw [hsplit]
      rcases List.eq_nil_or_concat segments with rfl | ⟨init, last, rfl⟩ <;> simp
  · exact hsplit

theorem not_startsUppercase_of_mem_package {segments : List (List Char)} {part : List Char}
    (h : part ∈ (cutPackage segments).1) : startsUppercase part = false := by
  unfold cutPackage at h
  rw [List.span_eq_takeWhile_dropWhile] at h
  split at h
  · next lower heq =>
      obtain ⟨rfl, -⟩ := Prod.mk.inj heq
      simpa using List.mem_takeWhile_imp (List.dropLast_subset _ h)
  · simpa using List.mem_takeWhile_imp h

/-- Segments that do not look like classes are part of the package when something
follows them. -/
theorem cutPackage_append_left {package rest : List (List Char)}
    (hpackage : ∀ part ∈ package, startsUppercase part = false) (hrest : rest ≠ []) :
    cutPackage (package ++ rest) = (package ++ (cutPackage rest).1, (cutPackage rest).2) := by
  have hlower : ∀ part ∈ package, (!startsUppercase part) = true := by simpa using hpackage
  unfold cutPackage
  rw [List.span_eq_takeWhile_dropWhile, List.span_eq_takeWhile_dropWhile,
    List.takeWhile_append_of_pos hlower, List.dropWhile_append_of_pos hlower]
  cases hclasses : rest.dropWhile fun s => !startsUppercase s with
  | cons first more => rfl
  | nil =>
      have hall := List.takeWhile_append_dropWhile (p := fun s => !startsUppercase s) (l := rest)
      rw [hclasses, List.append_nil] at hall
      simp [hall, List.dropLast_append_of_ne_nil hrest, List.getLast?_append,
        List.getLast?_eq_some_getLast hrest]

/-- There is no package where the first segment looks like a class or is the only
one. -/
theorem cutPackage_cons_eq_iff {first : List Char} {rest : List (List Char)} :
    cutPackage (first :: rest) = ([], first :: rest) ↔
      startsUppercase first = true ∨ rest = [] := by
  cases hupper : startsUppercase first with
  | true => simp [cutPackage, List.span_eq_takeWhile_dropWhile, hupper]
  | false =>
      by_cases hrest : rest = []
      · simp [cutPackage, List.span_eq_takeWhile_dropWhile, hupper, hrest]
      · have hcut := @cutPackage_append_left [first] rest (by simpa using hupper) hrest
        rw [List.singleton_append] at hcut
        simp [hcut, hrest]

/-! ## The parts of a name -/

theorem hasIdentifierShape_append {a b : List Char} (ha : hasIdentifierShape a = true)
    (hb : ∀ c ∈ b, isIdentifierPart c = true) : hasIdentifierShape (a ++ b) = true := by
  cases a with
  | nil => cases ha
  | cons c rest =>
      simp only [hasIdentifierShape, Bool.and_eq_true, List.all_eq_true] at ha
      simp only [List.cons_append, hasIdentifierShape, Bool.and_eq_true, List.all_eq_true,
        List.mem_append]
      exact ⟨ha.1, fun d hd => hd.elim (ha.2 d) (hb d)⟩

/-- Identifiers with dollar signs between them are an identifier. -/
theorem isIdentifier_of_pieces {segment : List Char}
    (h : ∀ piece ∈ segment.splitOn '$', isIdentifier (String.ofList piece) = true) :
    isIdentifier (String.ofList segment) = true := by
  have hshape : ∀ piece ∈ segment.splitOn '$', hasIdentifierShape piece = true := by
    intro piece hpiece
    have hpart := isIdentifier_shape (h piece hpiece)
    rwa [String.toList_ofList] at hpart
  have hwhole : ['$'].intercalate (segment.splitOn '$') = segment := List.intercalate_splitOn '$'
  have hpart : ∀ c ∈ segment, isIdentifierPart c = true := by
    intro c hc
    rw [← hwhole] at hc
    rcases Text.mem_intercalate_singleton hc with rfl | ⟨piece, hpiece, hmem⟩
    · decide
    · exact isIdentifierPart_of_mem (hshape piece hpiece) c hmem
  obtain ⟨first, rest, hsplit⟩ := List.exists_cons_of_ne_nil (List.splitOn_ne_nil '$' segment)
  have hfirst : first ∈ segment.splitOn '$' := hsplit ▸ List.mem_cons_self ..
  rw [hsplit] at hwhole
  cases rest with
  | nil =>
      obtain rfl : first = segment := by simpa using hwhole
      exact h first hfirst
  | cons next more =>
      rw [List.intercalate_cons_cons, List.append_assoc] at hwhole
      have hsegment : hasIdentifierShape segment = true := by
        rw [← hwhole] at hpart ⊢
        exact hasIdentifierShape_append (hshape first hfirst) fun c hc =>
          hpart c (List.mem_append_right _ hc)
      have hreserved : String.ofList segment ∉ reservedWords := by
        have htable : ∀ reserved ∈ reservedWords, '$' ∉ reserved.toList := by decide
        intro hmem
        refine htable _ hmem ?_
        rw [String.toList_ofList, ← hwhole]
        simp
      rw [isIdentifier, String.toList_ofList, hsegment]
      simpa using hreserved

theorem isIdentifier_of_mem_segments {text : List Char} {c : ClassName}
    (h : ofCharacters text = .ok c) {segment : List Char} (hsegment : segment ∈ text.splitOn '.') :
    isIdentifier (String.ofList segment) = true := by
  obtain ⟨-, hnames, -, hids, hpackage⟩ := ofCharacters_eq_ok.mp h
  rw [← cutPackage_append (text.splitOn '.'), List.mem_append] at hsegment
  rcases hsegment with hsegment | hsegment
  · exact hpackage segment hsegment
  · refine isIdentifier_of_pieces fun piece hpiece => hids _ ?_
    rw [hnames]
    exact List.mem_map_of_mem (List.mem_flatMap.mpr ⟨segment, hsegment, hpiece⟩)

/-! ## Reading a name back -/

theorem wellFormed_of_parse {name : String} {c : ClassName} (h : parse name = .ok c) :
    c.WellFormed := by
  obtain ⟨-, hnames, hpackage, hids, hparts⟩ := ofCharacters_eq_ok.mp (parse_eq_ok.mp h)
  refine ⟨⟨_, hpackage, ?_⟩, ?_⟩
  · intro part hpart
    obtain ⟨chars, hmem, rfl⟩ := List.mem_map.mp hpart
    exact ⟨hparts chars hmem, by
      rw [String.toList_ofList]; exact not_startsUppercase_of_mem_package hmem⟩
  · intro name hname
    refine ⟨hids name hname, ?_⟩
    rw [hnames] at hname
    obtain ⟨chars, hmem, rfl⟩ := List.mem_map.mp hname
    obtain ⟨segment, -, hpiece⟩ := List.mem_flatMap.mp hmem
    rw [String.toList_ofList]
    exact Text.not_mem_of_mem_splitOn hpiece

/-- What the canonical name of a class is read as: classes in front of the first one
that looks like a class go to the package. -/
theorem WellFormed.parse_canonical_eq_ok {c d : ClassName} (h : c.WellFormed) :
    parse c.canonical = .ok d ↔
      d.names = (cutPackage (c.names.map String.toList)).2.map String.ofList
        ∧ d.package = String.intercalate "."
          (c.packages ++ (cutPackage (c.names.map String.toList)).1.map String.ofList) := by
  obtain ⟨-, hparts⟩ := h.packages
  have hsplit : c.canonical.toList.splitOn '.'
      = c.packages.map String.toList ++ c.names.map String.toList := by
    have hsegments := congrArg (List.map String.toList) h.splitOn_canonical
    simpa [Text.splitOn, Function.comp_def] using hsegments
  have hempty : [] ∉ c.packages.map String.toList ++ c.names.map String.toList := by
    rw [← List.map_append]
    intro hmem
    obtain ⟨part, hp, hnil⟩ := List.mem_map.mp hmem
    have hid := (List.mem_append.mp hp).elim (fun hp => (hparts part hp).1) fun hp =>
      (h.names part hp).1
    exact ne_nil_of_hasIdentifierShape (isIdentifier_shape hid) hnil
  have hcut := @cutPackage_append_left (c.packages.map String.toList) (c.names.map String.toList)
    (by simpa using fun part hp => (hparts part hp).2) (by simp [ClassName.names])
  have hwhole := cutPackage_append (c.names.map String.toList)
  generalize cutPackage (c.names.map String.toList) = cut at hcut hwhole ⊢
  obtain ⟨outer, classes⟩ := cut
  -- Both halves are made of names of the class, so no dollar sign cuts them again.
  have hname : ∀ chars ∈ outer ++ classes,
      isIdentifier (String.ofList chars) = true ∧ '$' ∉ chars := by
    intro chars hchars
    rw [hwhole] at hchars
    obtain ⟨name, hname, rfl⟩ := List.mem_map.mp hchars
    simpa using h.names name hname
  have hflat : classes.flatMap (List.splitOn '$') = classes :=
    Text.flatMap_splitOn_of_not_mem fun chars hc => (hname chars (List.mem_append_right _ hc)).2
  rw [parse_eq_ok, Text.dropEnds_of_not_blank (not_isBlank_of_mem_path h.isPath_canonical),
    ofCharacters_eq_ok, hsplit, hcut, hflat]
  constructor
  · rintro ⟨-, hnames, hpackage, -, -⟩
    exact ⟨hnames, by simpa [Function.comp_def] using hpackage⟩
  · rintro ⟨hnames, hpackage⟩
    refine ⟨hempty, hnames, by simpa [Function.comp_def] using hpackage, ?_, ?_⟩
    · intro name hmem
      rw [hnames] at hmem
      obtain ⟨chars, hc, rfl⟩ := List.mem_map.mp hmem
      exact (hname chars (List.mem_append_right _ hc)).1
    · intro chars hc
      rcases List.mem_append.mp hc with hc | hc
      · obtain ⟨part, hp, rfl⟩ := List.mem_map.mp hc
        simpa using (hparts part hp).1
      · exact (hname chars (List.mem_append_left _ hc)).1

/-- A class is read back from its canonical name exactly when the name shows where
the package ends. -/
theorem WellFormed.parse_canonical_iff {c : ClassName} (h : c.WellFormed) :
    parse c.canonical = .ok c ↔
      startsUppercase c.outermost.toList = true ∨ c.names.length = 1 := by
  have hcut := @cutPackage_cons_eq_iff c.outermost.toList (c.nested.map String.toList)
  have hwhole := cutPackage_append (c.names.map String.toList)
  have hlength : c.names.length = 1 ↔ c.nested.map String.toList = [] := by
    simp [ClassName.names]
  rw [h.parse_canonical_eq_ok, hlength, ← hcut, ← List.map_cons]
  change _ ↔ cutPackage (c.names.map String.toList) = ([], c.names.map String.toList)
  generalize cutPackage (c.names.map String.toList) = cut at hwhole ⊢
  obtain ⟨outer, classes⟩ := cut
  simp only at hwhole ⊢
  constructor
  · rintro ⟨hnames, -⟩
    -- As many classes as before leave none for the package.
    have hcount := congrArg List.length hwhole
    have houter : outer = [] := by
      rw [List.length_append, List.length_map, hnames, List.length_map] at hcount
      exact List.length_eq_zero_iff.mp (by omega)
    rw [houter, List.nil_append] at hwhole
    rw [houter, hwhole]
  · intro hnone
    obtain ⟨rfl, rfl⟩ := Prod.mk.inj hnone
    simpa [Function.comp_def] using h.packages.1

/-- A class whose outermost name has an uppercase initial is read back from its
canonical name. -/
theorem parse_canonical {c : ClassName} (h : c.WellFormed)
    (hupper : startsUppercase c.outermost.toList = true) : parse c.canonical = .ok c :=
  h.parse_canonical_iff.mpr (.inl hupper)

/-- The same for a class written without its package. -/
theorem parse_nestedPath {c : ClassName} (h : c.WellFormed)
    (hupper : startsUppercase c.outermost.toList = true) :
    parse c.nestedPath = .ok { c with package := "" } := by
  have hwritten : ({ c with package := "" } : ClassName).canonical = c.nestedPath := if_pos rfl
  rw [← hwritten]
  exact parse_canonical h.withoutPackage hupper

end ClassName

end ModuleContainers.Java
