import ModuleContainers.Files.Access
import ModuleContainers.Proofs.Files.Path

/-!
# Where a path leads

There are no links in a file tree, so a path leads to a place that can be read off
its segments: a name goes down, two dots go back, a dot and an empty segment stay
(`Path.target`). Whoever walks the path comes by the places of its first segments
(`Path.Passes`), and the path of what contains a place leads there by the same
route (`Passes.of_parent`).

Names that are joined below a path lead down from its place (`target_below`), through
one directory for each of them (`parent?_below`).
-/

namespace ModuleContainers.Files

open FileTree (start staysPut)

/-- The place that a segment leads to. -/
def follow (place : List String) (segment : String) : List String :=
  if staysPut segment then place
  else if segment = ".." then place.dropLast
  else place ++ [segment]

theorem follow_empty (place : List String) : follow place "" = place := rfl

theorem foldl_follow_empty {segments : List String} (h : ∀ segment ∈ segments, segment = "")
    (place : List String) : segments.foldl follow place = place := by
  induction segments with
  | nil => rfl
  | cons first rest ih =>
      rw [List.foldl_cons, h first (List.mem_cons_self ..), follow_empty]
      exact ih fun other ho => h other (List.mem_cons_of_mem _ ho)

/-- A name leads one step down. -/
theorem follow_of_isName {name : String} (h : Path.IsName name) (place : List String) :
    follow place name = place ++ [name] := by
  simp [follow, staysPut, h.empty, h.current, h.parent]

theorem foldl_follow_names {names : List String} (h : ∀ name ∈ names, Path.IsName name)
    (place : List String) : names.foldl follow place = place ++ names := by
  induction names generalizing place with
  | nil => simp
  | cons name rest ih =>
      rw [List.foldl_cons, follow_of_isName (h name (List.mem_cons_self ..)),
        ih fun other ho => h other (List.mem_cons_of_mem _ ho)]
      simp

namespace Path

variable {current : List String} {path parent root : Path} {names init rest : List String}
  {first last : String} {place : List String}

/-- The place that a path leads to. -/
def target (current : List String) (path : Path) : List String :=
  path.segments.foldl follow (start current path)

/-- A place that the path comes by, its end included. -/
def Passes (current : List String) (path : Path) (place : List String) : Prop :=
  ∃ segments, segments <+: path.segments ∧ segments.foldl follow (start current path) = place

theorem passes_start (current : List String) (path : Path) :
    path.Passes current (start current path) :=
  ⟨[], List.nil_prefix, rfl⟩

/-- The target is passed, by all of the path. -/
theorem passes_target (current : List String) (path : Path) :
    path.Passes current (path.target current) :=
  ⟨path.segments, List.prefix_refl _, rfl⟩

/-! ## Segments -/

/-- Segments are cut at slashes. -/
theorem slash_not_mem_segments (path : Path) : ∀ segment ∈ path.segments, '/' ∉ segment.toList := by
  intro segment hsegment
  obtain ⟨piece, hpiece, rfl⟩ := List.mem_map.mp hsegment
  rw [String.toList_ofList]
  exact Text.not_mem_of_mem_splitOn hpiece

theorem segments_ne_nil (path : Path) : path.segments ≠ [] := by
  simp [segments, Text.splitOn, List.splitOn_ne_nil]

/-- The number of segments bounds how often a parent can be asked for. -/
theorem length_segments_le (path : Path) : path.segments.length ≤ path.text.length + 1 := by
  rw [segments, Text.splitOn, List.length_map, ← String.length_toList]
  exact Text.length_splitOn_le '/' path.text.toList

theorem joined_segments (path : Path) : joined path.segments = path := by
  have htext : (joined path.segments).text = path.text := by
    rw [← String.toList_inj, joined, String.toList_intercalate, segments, Text.splitOn,
      List.map_map]
    simp [Function.comp_def]
  exact congrArg Path.mk htext

/-- Segments without slashes are found again, if there are any. -/
theorem segments_joined (h : ∀ segment ∈ names, '/' ∉ segment.toList) (hne : names ≠ []) :
    (joined names).segments = names :=
  Text.splitOn_intercalate rfl h hne

theorem joined_append (hinit : init ≠ []) (hnames : names ≠ []) :
    joined (init ++ names) = ⟨(joined init).text ++ "/" ++ (joined names).text⟩ := by
  rw [joined, String.intercalate_append_of_ne_nil hinit hnames]
  rfl

/-- A path is absolute if its first segment is empty and not the only one. -/
theorem isAbsolute_joined_iff (h : ∀ segment ∈ names, '/' ∉ segment.toList) :
    (joined names).isAbsolute = true ↔ names.head? = some "" ∧ 1 < names.length := by
  cases names with
  | nil => simp [isAbsolute, joined]
  | cons first rest =>
      rcases hchars : first.toList with _ | ⟨c, more⟩
      · obtain rfl : first = "" := by simpa using hchars
        cases rest <;> simp [isAbsolute, joined]
      · have hc : c ≠ '/' := by
          rintro rfl
          exact h first (List.mem_cons_self ..) (hchars ▸ List.mem_cons_self ..)
        have hfull : first ≠ "" := by
          rintro rfl
          cases hchars
        cases rest <;> simp [isAbsolute, joined, hchars, hc, hfull]

/-- An absolute path has an empty first segment, and more behind it. -/
theorem isAbsolute_iff (path : Path) :
    path.isAbsolute = true ↔ path.segments.head? = some "" ∧ 1 < path.segments.length := by
  rw [← isAbsolute_joined_iff path.slash_not_mem_segments, joined_segments]

/-! ## The way up -/

/-- Only segments at the end are dropped. -/
theorem dropSilent_isPrefix (keepsFirst : Bool) (segments : List String) :
    dropSilent keepsFirst segments <+: segments := by
  have hkept : ∀ l : List String,
      (l.reverse.dropWhile fun s => (innerComponent s).isNone).reverse <+: l := fun l => by
    rw [← List.reverse_suffix, List.reverse_reverse]
    exact List.dropWhile_suffix _
  cases keepsFirst with
  | false =>
      simp only [dropSilent, Bool.false_eq_true, if_false, List.filter_nil, List.nil_append]
      split
      · exact List.nil_prefix
      · exact hkept segments
  | true =>
      cases segments with
      | nil => simp [dropSilent]
      | cons first rest =>
          simp only [dropSilent, if_true, List.take_succ_cons, List.take_zero, List.drop_succ_cons,
            List.drop_zero]
          split
          · by_cases hfirst : first = "" <;> simp [hfirst]
          · exact List.cons_prefix_cons.mpr ⟨rfl, hkept rest⟩

/-- A name at the end is not dropped. -/
theorem dropSilent_concat (keepsFirst : Bool) (init : List String) (h : IsName last) :
    dropSilent keepsFirst (init ++ [last]) = init ++ [last] := by
  have hname := innerComponent_of_isName h
  cases keepsFirst with
  | false => simp [dropSilent, hname]
  | true =>
      cases init with
      | nil => simp [dropSilent, h.empty]
      | cons first more => simp [dropSilent, hname]

theorem dropSilent_dropLast_isPrefix (keepsFirst : Bool) (segments : List String) :
    dropSilent keepsFirst (dropSilent keepsFirst segments).dropLast <+: segments :=
  (dropSilent_isPrefix ..).trans ((List.dropLast_prefix _).trans (dropSilent_isPrefix ..))

/-- The way up from an absolute path keeps the slash that it starts with. -/
theorem parent?_eq_some (hparent : path.parent? = some parent) :
    if path.isAbsolute then
      ∃ up, up <+: path.segments.drop 1
        ∧ parent = joined ("" :: if up = [] then [""] else up)
    else ∃ up, up <+: path.segments ∧ parent = joined up := by
  rw [parent?] at hparent
  by_cases habsolute : path.isAbsolute = true
  · rw [if_pos habsolute] at hparent ⊢
    have hlead := dropSilent_dropLast_isPrefix false (path.segments.drop 1)
    split at hparent
    · cases hparent
    · obtain rfl := Option.some.inj hparent
      generalize dropSilent false (dropSilent false (path.segments.drop 1)).dropLast = up at hlead
      refine ⟨up, hlead, ?_⟩
      cases up <;> simp [joined]
  · rw [if_neg habsolute] at hparent ⊢
    split at hparent
    · cases hparent
    · exact ⟨_, dropSilent_dropLast_isPrefix true path.segments, (Option.some.inj hparent).symm⟩

/-- A path of the first segments goes a part of the same way. -/
theorem Passes.of_prefix {up : List String} (hup : up <+: path.segments) (hne : up ≠ [])
    (habsolute : (joined up).isAbsolute = path.isAbsolute)
    (h : (joined up).Passes current place) : path.Passes current place := by
  obtain ⟨before, hbefore, rfl⟩ := h
  have hslash : ∀ segment ∈ up, '/' ∉ segment.toList := fun segment hsegment =>
    path.slash_not_mem_segments segment (hup.subset hsegment)
  rw [segments_joined hslash hne] at hbefore
  exact ⟨before, hbefore.trans hup, by rw [start, start, habsolute]⟩

/-- A path of nothing but slashes stays where it starts, and others start there, too. -/
theorem Passes.of_silent {other : Path} (hsilent : ∀ segment ∈ other.segments, segment = "")
    (habsolute : other.isAbsolute = path.isAbsolute) (h : other.Passes current place) :
    path.Passes current place := by
  obtain ⟨before, hbefore, rfl⟩ := h
  rw [foldl_follow_empty fun segment hsegment => hsilent segment (hbefore.subset hsegment),
    start, habsolute, ← start]
  exact path.passes_start current

/-- The parent of a relative path ends where its last name starts, without the segments that say
nothing. -/
theorem parent?_of_relative (hrelative : path.isAbsolute = false)
    (hsegments : path.segments = init ++ [last]) (hlast : IsName last) :
    path.parent? = some (joined (dropSilent true init)) := by
  have hkept : dropSilent true path.segments = init ++ [last] := by
    rw [hsegments, dropSilent_concat true init hlast]
  rw [parent?, hrelative, if_neg (by decide)]
  split
  · next hempty =>
      rw [hkept] at hempty
      simp at hempty
  · rw [hkept, List.dropLast_concat]
    rfl

/-- The parent of an absolute path keeps its slash. -/
theorem parent?_of_absolute (habsolute : path.isAbsolute = true)
    (hsegments : path.segments = init ++ [last]) (hlast : IsName last) :
    path.parent? = some ⟨"/" ++ (joined (dropSilent false (init.drop 1))).text⟩ := by
  obtain ⟨-, hlength⟩ := path.isAbsolute_iff.mp habsolute
  have hkept : dropSilent false (path.segments.drop 1) = init.drop 1 ++ [last] := by
    rw [hsegments, List.length_append, List.length_singleton] at hlength
    rw [hsegments, List.drop_append_of_le_length (by omega), dropSilent_concat false _ hlast]
  rw [parent?, if_pos habsolute]
  split
  · next hempty =>
      rw [hkept] at hempty
      simp at hempty
  · rw [hkept, List.dropLast_concat]
    rfl

/-- A path that ends with a name has a way up. -/
theorem parent?_ne_none (hsegments : path.segments = init ++ [last]) (hlast : IsName last) :
    path.parent? ≠ none := by
  by_cases habsolute : path.isAbsolute = true
  · simp [parent?_of_absolute habsolute hsegments hlast]
  · simp [parent?_of_relative (Bool.eq_false_iff.mpr habsolute) hsegments hlast]

/-- The path of what contains a place goes a part of the same way. -/
theorem Passes.of_parent (hparent : path.parent? = some parent)
    (h : parent.Passes current place) : path.Passes current place := by
  have hup := parent?_eq_some hparent
  split at hup
  · next habsolute =>
      obtain ⟨up, hlead, rfl⟩ := hup
      obtain ⟨hhead, -⟩ := path.isAbsolute_iff.mp habsolute
      obtain ⟨rest, hsegments⟩ := List.head?_eq_some_iff.mp hhead
      rw [hsegments, List.drop_succ_cons, List.drop_zero] at hlead
      by_cases hempty : up = []
      · rw [if_pos hempty] at h
        exact h.of_silent (by decide) (by rw [habsolute]; decide)
      · rw [if_neg hempty] at h
        have hwhole : "" :: up <+: path.segments := by
          rw [hsegments]
          exact List.cons_prefix_cons.mpr ⟨rfl, hlead⟩
        refine h.of_prefix hwhole (by simp) ?_
        rw [habsolute, isAbsolute_joined_iff fun segment hsegment =>
          path.slash_not_mem_segments segment (hwhole.subset hsegment)]
        exact ⟨rfl, by simpa using List.length_pos_of_ne_nil hempty⟩
  · next hrelative =>
      obtain ⟨up, hlead, rfl⟩ := hup
      by_cases hempty : up = []
      · rw [hempty] at h
        exact h.of_silent (by decide) (by rw [Bool.eq_false_iff.mpr hrelative]; decide)
      · refine h.of_prefix hlead hempty ?_
        -- A relative path has no first segments that make an absolute one.
        rw [Bool.eq_false_iff.mpr hrelative, Bool.eq_false_iff, Ne, isAbsolute_joined_iff
          fun segment hsegment => path.slash_not_mem_segments segment (hlead.subset hsegment)]
        rintro ⟨hhead, hlength⟩
        refine hrelative (path.isAbsolute_iff.mpr ⟨?_, hlength.trans_le hlead.length_le⟩)
        obtain ⟨rest, rfl⟩ := List.head?_eq_some_iff.mp hhead
        obtain ⟨more, hmore⟩ := hlead
        rw [← hmore]
        rfl

/-! ## Names below a path -/

/-- The path of names below another one. -/
def below (root : Path) (names : List String) : Path := root.join (joined names)

/-- The segments of a path that stay when something is joined to it. -/
def stem (root : Path) : List String :=
  if root.segments.getLast? = some "" then root.segments.dropLast else root.segments

/-- A path may end in a slash, which is an empty last segment; the stem is without it. -/
theorem segments_eq_stem (root : Path) :
    root.segments = root.stem ++ [""]
      ∨ root.segments = root.stem ∧ ∃ init last, root.stem = init ++ [last] ∧ last ≠ "" := by
  obtain ⟨init, last, hsegments⟩ :=
    (List.eq_nil_or_concat' root.segments).resolve_left root.segments_ne_nil
  rw [stem, hsegments]
  by_cases hlast : last = ""
  · exact .inl (by simp [hlast])
  · exact .inr ⟨by simp [hlast], init, last, by simp [hlast], hlast⟩

theorem slash_not_mem_stem (root : Path) : ∀ segment ∈ root.stem, '/' ∉ segment.toList := by
  intro segment hsegment
  refine root.slash_not_mem_segments segment ?_
  rcases root.segments_eq_stem with h | ⟨h, -⟩
  · exact h ▸ List.mem_append_left _ hsegment
  · exact h ▸ hsegment

theorem below_eq_joined (root : Path) (hnames : ∀ name ∈ names, IsName name) (hne : names ≠ []) :
    root.below names = joined (root.stem ++ names) := by
  have hbelow : (joined names).isAbsolute = false := isAbsolute_joined hnames
  have hroot := root.joined_segments
  rcases root.segments_eq_stem with hsegments | ⟨hsegments, init, last, hstem, hlast⟩
  · rw [hsegments] at hroot
    by_cases hempty : root.stem = []
    · have htext : root.text = "" := by rw [← hroot, hempty]; rfl
      rw [below, join, if_pos (.inr htext), hempty, List.nil_append]
    · have htext : root.text = (joined root.stem).text ++ "/" := by
        conv_lhs => rw [← hroot, joined_append hempty (by simp)]
        simp [joined]
      rw [below, join, if_neg (by simp [hbelow, htext]), if_pos (by simp [htext]), htext,
        joined_append hempty hne]
  · have hslash := root.slash_not_mem_stem last (by simp [hstem])
    obtain ⟨hfull, hend⟩ := joined_concat_ends init hlast hslash
    rw [← hstem, ← hsegments, hroot] at hfull hend
    rw [below, join, if_neg (by simp [hbelow, hfull]), if_neg hend,
      joined_append (by simp [hstem]) hne, ← hsegments, hroot]

/-- The segments of a path below another one are those of the stem and the names. -/
theorem segments_below (root : Path) (hnames : ∀ name ∈ names, IsName name) (hne : names ≠ []) :
    (root.below names).segments = root.stem ++ names := by
  rw [below_eq_joined root hnames hne, segments_joined ?_ (by simp [hne])]
  intro segment hsegment
  rcases List.mem_append.mp hsegment with hsegment | hsegment
  · exact root.slash_not_mem_stem segment hsegment
  · exact (hnames segment hsegment).slash

theorem text_below_ne (root : Path) (hnames : ∀ name ∈ names, IsName name) (hne : names ≠ []) :
    (root.below names).text ≠ "" := by
  rw [below_eq_joined root hnames hne]
  obtain ⟨init, last, rfl⟩ := (List.eq_nil_or_concat' names).resolve_left hne
  have hlast := hnames last (by simp)
  rw [← List.append_assoc]
  exact (joined_concat_ends _ hlast.empty hlast.slash).1

theorem isAbsolute_below (root : Path) (hnames : ∀ name ∈ names, IsName name) (hne : names ≠ []) :
    (root.below names).isAbsolute = root.isAbsolute := by
  rw [Bool.eq_iff_iff, isAbsolute_iff, isAbsolute_iff, segments_below root hnames hne]
  have hlength := List.length_pos_of_ne_nil hne
  rcases root.segments_eq_stem with hsegments | ⟨hsegments, init, last, hstem, hlast⟩
  · rw [hsegments]
    cases root.stem with
    | nil =>
        obtain ⟨first, rest, rfl⟩ := List.exists_cons_of_ne_nil hne
        simp [(hnames first (List.mem_cons_self ..)).empty]
    | cons first rest =>
        refine and_congr_right fun _ => ?_
        simp only [List.length_cons, List.length_append, List.length_nil]
        omega
  · rw [hsegments, hstem]
    cases init with
    | nil => simp [hlast]
    | cons first rest =>
        refine and_congr_right fun _ => ?_
        simp only [List.length_cons, List.length_append, List.length_nil]
        omega

/-- The names lead down from where the path leads. -/
theorem target_below (current : List String) (root : Path) (hnames : ∀ name ∈ names, IsName name)
    (hne : names ≠ []) :
    (root.below names).target current = root.target current ++ names := by
  have hstem : root.stem.foldl follow (start current root) = root.target current := by
    rw [target]
    rcases root.segments_eq_stem with hsegments | ⟨hsegments, -⟩
    · rw [hsegments, List.foldl_append]
      rfl
    · rw [hsegments]
  rw [target, segments_below root hnames hne, start, isAbsolute_below root hnames hne, ← start,
    List.foldl_append, hstem, foldl_follow_names hnames]

/-- One name up from names below a path. -/
theorem parent?_below (root : Path) (hnames : ∀ name ∈ names, IsName name) (hne : names ≠ [])
    (hlast : IsName last) :
    (root.below (names ++ [last])).parent? = some (root.below names) := by
  have hall := isName_concat hnames hlast
  obtain ⟨init, next, rfl⟩ := (List.eq_nil_or_concat' names).resolve_left hne
  have hnext := hnames next (by simp)
  have hsegments : (root.below (init ++ [next] ++ [last])).segments
      = root.stem ++ init ++ [next] ++ [last] := by
    rw [segments_below root hall (by simp)]
    simp
  have hbelow : root.below (init ++ [next]) = joined (root.stem ++ init ++ [next]) := by
    rw [below_eq_joined root hnames hne, List.append_assoc]
  by_cases habsolute : root.isAbsolute = true
  · have hup : (root.below (init ++ [next])).isAbsolute = true := by
      rw [isAbsolute_below root hnames hne, habsolute]
    have hdown : (root.below (init ++ [next] ++ [last])).isAbsolute = true := by
      rw [isAbsolute_below root hall (by simp), habsolute]
    obtain ⟨hhead, hlength⟩ := (isAbsolute_iff _).mp hup
    rw [segments_below root hnames hne, ← List.append_assoc] at hhead hlength
    obtain ⟨first, rest, hfront⟩ := List.exists_cons_of_ne_nil (l := root.stem ++ init) (by
      rintro hempty
      simp [hempty] at hlength)
    obtain rfl : first = "" := by simpa [hfront] using hhead
    rw [hbelow, parent?_of_absolute hdown hsegments hlast, hfront, List.cons_append,
      List.drop_succ_cons, List.drop_zero, dropSilent_concat _ _ hnext]
    have hroot : joined ([""] ++ (rest ++ [next])) = _ := joined_append (by simp) (by simp)
    exact congrArg some hroot.symm
  · have hdown : (root.below (init ++ [next] ++ [last])).isAbsolute = false := by
      rw [isAbsolute_below root hall (by simp), Bool.eq_false_iff.mpr habsolute]
    rw [hbelow, parent?_of_relative hdown hsegments hlast, dropSilent_concat _ _ hnext]

theorem parent?_below_ne_none (root : Path) (hnames : ∀ name ∈ names, IsName name)
    (hne : names ≠ []) : (root.below names).parent? ≠ none := by
  obtain ⟨init, last, rfl⟩ := (List.eq_nil_or_concat' names).resolve_left hne
  have hsegments := segments_below root hnames hne
  rw [← List.append_assoc] at hsegments
  exact parent?_ne_none hsegments (hnames last (by simp))

/-- The directory of a path below another one is the path without the last name. -/
theorem directory_below (root : Path) (hnames : ∀ name ∈ names, IsName name) (hne : names ≠ [])
    (hlast : IsName last) :
    (root.below (names ++ [last])).directory = root.below names := by
  rw [directory, parent?_below root hnames hne hlast]
  exact if_neg (text_below_ne root hnames hne)

/-- The last name is what leads from the directory to the target. -/
theorem target_below_directory (current : List String) (root : Path)
    (hnames : ∀ name ∈ names, IsName name) (hne : names ≠ []) (hlast : IsName last) :
    (root.below (names ++ [last])).target current
      = (root.below (names ++ [last])).directory.target current ++ [last] := by
  have hall := isName_concat hnames hlast
  rw [directory_below root hnames hne hlast, target_below current root hnames hne,
    target_below current root hall (by simp), List.append_assoc]

end Path

end ModuleContainers.Files
