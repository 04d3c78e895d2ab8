import ModuleContainers.Proofs.Container.Javadoc
import ModuleContainers.Proofs.Lexical.Translation

/-!
# Comments keep their text

What is known of a comment as a text, and not of what a lexer makes of it: a block
comment has its end mark at its end and nowhere else (`IsBlockComment`), and a line
comment has no line terminator (`IsLineComment`).

An end mark is two characters, so it could come about where a text is put together.
A text without an end mark stays one when its backslashes are doubled and its lines
are put below one another, because neither puts a slash behind a star
(`unended_escapeCommentEnd`, `Unended.append`). No character is changed on the way to
the compiler either, because no backslash that is left starts an escape (`Verbatim`).
-/

namespace ModuleContainers.Container

open ModuleContainers.Java (ClassName Fragment Rendering commentLines lineComment lineComments)
open ModuleContainers.Lexical (Settled Transducer Translates escapes isTerminator lex)
open ModuleContainers.Metadata (Module)

variable {a b text : List Char}

/-! ## Comments as texts -/

def endMark : List Char := ['*', '/']

/-- The text is one comment from its first character to its last. -/
def IsBlockComment (text : List Char) : Prop :=
  ∃ body, text = ['/', '*'] ++ body ∧ endMark <:+ body
    ∧ ∀ before after, body = before ++ endMark ++ after → after = []

/-- The text is one comment that the end of its line ends. -/
def IsLineComment (line : List Char) : Prop :=
  ['/', '/'] <+: line ∧ ∀ c ∈ line, isTerminator c = false

/-! ## Texts without an end mark -/

def Unended (text : List Char) : Prop := ¬ endMark <:+: text

/-- No end mark comes about around a character that is in none. -/
theorem Unended.append (ha : Unended a) (hb : Unended b) {c : Char} (hc : c ∉ endMark) :
    Unended (a ++ c :: b) := by
  intro h
  rcases List.infix_append_iff.mp h with h | h | ⟨first, last, hmark, hfirst, hlast⟩
  · exact ha h
  · rcases List.infix_cons_iff.mp h with hlead | h
    · obtain rfl := (List.cons_prefix_cons.mp hlead).1
      exact hc (by decide)
    · exact hb h
  · cases last with
    | nil =>
        rw [List.append_nil] at hmark
        exact ha (hmark ▸ hfirst.isInfix)
    | cons d more =>
        obtain ⟨rfl, -⟩ := List.cons_prefix_cons.mp hlast
        exact hc (hmark ▸ List.mem_append_right _ (List.mem_cons_self ..))

/-- Lines below one another, and a text behind them. -/
theorem Unended.lines {lines : List (List Char)} (h : ∀ line ∈ lines, Unended line)
    (hb : Unended b) : Unended (lines.flatMap (· ++ ['\n']) ++ b) := by
  induction lines with
  | nil => exact hb
  | cons line rest ih =>
      have hrest := ih fun other ho => h other (List.mem_cons_of_mem _ ho)
      have hline := (h line (List.mem_cons_self ..)).append hrest (c := '\n') (by decide)
      simpa using hline

theorem unended_of_not_mem (h : '/' ∉ text) : Unended text :=
  fun hmark => h (hmark.subset (by decide))

theorem head?_escapeCommentEnd (text : List Char) :
    (escapeCommentEnd text).head? = text.head? := by
  fun_cases escapeCommentEnd text <;> rfl

/-- Once its end marks are replaced, a text has none: what is put in for one does not make
another one with what stands around it. -/
theorem unended_escapeCommentEnd (text : List Char) : Unended (escapeCommentEnd text) := by
  fun_induction escapeCommentEnd text with
  | case1 rest ih =>
      have hstart : Unended "*&#47".toList := unended_of_not_mem (by decide)
      exact hstart.append ih (c := ';') (by decide)
  | case2 c rest hpair ih =>
      intro h
      rcases List.infix_cons_iff.mp h with hlead | h
      · obtain ⟨rfl, hslash⟩ := List.cons_prefix_cons.mp hlead
        obtain ⟨more, hmore⟩ := hslash
        have hhead := head?_escapeCommentEnd rest
        rw [← hmore] at hhead
        obtain ⟨tail, rfl⟩ := List.head?_eq_some_iff.mp hhead.symm
        exact hpair tail rfl rfl
      · exact ih h
  | case3 => exact unended_of_not_mem (by decide)

/-- A comment ends with its first end mark. -/
theorem isBlockComment_of_unended (h : Unended (text ++ ['*'])) :
    IsBlockComment (['/', '*'] ++ text ++ endMark) := by
  refine ⟨text ++ endMark, by rw [List.append_assoc], List.suffix_append _ _,
    fun before after hsplit => ?_⟩
  rcases List.eq_nil_or_concat' after with hnil | ⟨init, last, rfl⟩
  · exact hnil
  · have hfront : text ++ ['*'] ++ ['/'] = before ++ endMark ++ init ++ [last] := by
      simpa [endMark] using hsplit
    have hmark := (List.append_inj' hfront rfl).1
    exact absurd ⟨before, init, hmark.symm⟩ h

/-! ## Texts without an escape -/

/-- The replacement of unicode escapes has nothing to replace: the text comes out as it is
and as nothing else, and no escape starts in it. -/
def IsAsWritten (source : List Char) : Prop :=
  (∀ out, Translates [] source out ↔ out = source) ∧ Settled source

/-- The stage that replaces unicode escapes leaves the text as it is, and nothing pending. -/
def Verbatim (text : List Char) : Prop := escapes.feed .settled text = some (text, .settled)

theorem Verbatim.append (ha : Verbatim a) (hb : Verbatim b) : Verbatim (a ++ b) :=
  Transducer.feed_append_of_feed ha hb

theorem verbatim_of_plain (h : '\\' ∉ text) : Verbatim text := Lexical.feed_escapes_of_plain h

theorem Verbatim.lines {lines : List (List Char)} (h : ∀ line ∈ lines, Verbatim line) :
    Verbatim (lines.flatMap (· ++ ['\n'])) := by
  induction lines with
  | nil => exact verbatim_of_plain (by simp)
  | cons line rest ih =>
      have hbreak : Verbatim ['\n'] := verbatim_of_plain (by decide)
      rw [List.flatMap_cons]
      exact ((h line (List.mem_cons_self ..)).append hbreak).append
        (ih fun other ho => h other (List.mem_cons_of_mem _ ho))

theorem Verbatim.isAsWritten (h : Verbatim text) : IsAsWritten text := by
  have htranslates : ∀ out, Translates [] text out ↔ out = text := by
    intro out
    have hrun := Transducer.run_of_feed h rfl
    rw [List.append_nil] at hrun
    rw [← Lexical.run_escapes_iff, hrun, Option.some.injEq, eq_comm]
  exact ⟨htranslates, Lexical.settled_of_translates ((htranslates text).mpr rfl)⟩

/-! ## Fragments of lines -/

/-- The fragment has these lines of text and nothing else. -/
structure HasLines (f : Fragment) (lines : List String) : Prop where
  parts : f = lines.flatMap fun line => Fragment.line (Fragment.text line)
  line : ∀ line ∈ lines, '\n' ∉ line.toList ∧ line ≠ ""

namespace HasLines

variable {f g : Fragment} {lines more : List String}

theorem nil : HasLines [] [] := ⟨rfl, by simp⟩

theorem append (hf : HasLines f lines) (hg : HasLines g more) :
    HasLines (f ++ g) (lines ++ more) :=
  ⟨by rw [hf.parts, hg.parts, List.flatMap_append],
    List.forall_mem_append.mpr ⟨hf.line, hg.line⟩⟩

theorem single {line : String} (hline : '\n' ∉ line.toList) (hne : line ≠ "") :
    HasLines (Fragment.line (Fragment.text line)) [line] :=
  ⟨by simp, by simpa using ⟨hline, hne⟩⟩

theorem toList_render (h : HasLines f lines) (unit : String) (spell : ClassName → String) :
    (f.render unit spell).toList = (lines.map String.toList).flatMap (· ++ ['\n']) := by
  rw [h.parts, Fragment.render_lines h.line]

/-- Such a fragment is rendered alike for all units and spellings. -/
theorem lex_render (h : HasLines f lines) (hreads : f.Reads .sealed []) (unit : String)
    (spell : ClassName → String) : lex (f.render unit spell) = some [] := by
  have hplain := hreads.source Rendering.plain 0 true
  have hsame : f.render unit spell = f.render Rendering.plain.unit Rendering.plain.spell := by
    rw [← String.toList_inj, h.toList_render, h.toList_render]
  rw [hsame]
  exact hplain.lex

end HasLines

/-! ## Line comments -/

/-- The line is a line comment, and the replacement of unicode escapes leaves it as it is. -/
theorem hasLines_lineComment {line : List Char} (h : ∀ c ∈ line, isTerminator c = false) :
    ∃ source : String, HasLines (lineComment line) [source]
      ∧ Verbatim source.toList ∧ IsLineComment source.toList := by
  obtain ⟨text, source, heq, hterminator, hsource⟩ := Java.lineComment_eq h
  have hline : ∀ c ∈ source.toList, isTerminator c = false := by
    rw [hsource]
    exact fun c => Java.isTerminator_of_mem_lineComment hterminator
  have hbreak : '\n' ∉ source.toList := fun hmem => by cases hline _ hmem
  have hne : source ≠ "" := by
    rintro rfl
    cases hsource
  have hmark : Verbatim ['/', '/'] := verbatim_of_plain (by decide)
  refine ⟨source, heq ▸ .single hbreak hne, ?_, ?_, hline⟩
  · rw [hsource]
    exact hmark.append (Lexical.feed_escapes_escapeBackslashes text)
  · rw [hsource]
    exact List.prefix_append _ _

theorem hasLines_flatMap_lineComment {lines : List (List Char)}
    (h : ∀ line ∈ lines, ∀ c ∈ line, isTerminator c = false) :
    ∃ sources : List String, HasLines (lines.flatMap lineComment) sources
      ∧ ∀ source ∈ sources, Verbatim source.toList ∧ IsLineComment source.toList := by
  induction lines with
  | nil => exact ⟨[], .nil, by simp⟩
  | cons line rest ih =>
      obtain ⟨source, hline, hsource⟩ := hasLines_lineComment (h line (List.mem_cons_self ..))
      obtain ⟨sources, hrest, hsources⟩ := ih fun other ho => h other (List.mem_cons_of_mem _ ho)
      exact ⟨[source] ++ sources, hline.append hrest, List.forall_mem_cons.mpr ⟨hsource, hsources⟩⟩

theorem hasLines_lineComments (text : String) :
    ∃ lines : List String, HasLines (lineComments text) lines
      ∧ ∀ line ∈ lines, Verbatim line.toList ∧ IsLineComment line.toList := by
  unfold lineComments
  split
  · exact ⟨[], .nil, by simp⟩
  · exact hasLines_flatMap_lineComment fun line => Java.isTerminator_of_mem_commentLines

/-! ## The comment of a class -/

theorem verbatim_javadocSource (line : List Char) : Verbatim (javadocSource line).toList := by
  rcases javadocSource_cases line with hsource | hsource
  · rw [hsource]
    exact verbatim_of_plain (by decide)
  · rw [hsource, Lexical.escapeCommentEnd_escapeBackslashes]
    exact (verbatim_of_plain (by decide)).append (Lexical.feed_escapes_escapeBackslashes _)

theorem unended_javadocSource (line : List Char) : Unended (javadocSource line).toList := by
  rcases javadocSource_cases line with hsource | hsource
  · rw [hsource]
    exact unended_of_not_mem (by decide)
  · rw [hsource]
    have hstar : Unended [' ', '*'] := unended_of_not_mem (by decide)
    exact hstar.append (unended_escapeCommentEnd _) (c := ' ') (by decide)

/-- The lines between the first one, which opens the comment, and the one that ends it. -/
def innerLines (banner : String) (module : Module) : List String :=
  ((javadocTexts banner module).flatMap commentLines).map javadocSource

theorem hasLines_javadoc (banner : String) (module : Module) :
    HasLines (javadoc banner module) (["/**"] ++ innerLines banner module ++ [" */"]) := by
  have hinner : HasLines (((javadocTexts banner module).flatMap commentLines).flatMap javadocLine)
      (innerLines banner module) := by
    refine ⟨by rw [innerLines, List.flatMap_map, ← funext javadocLine_eq], ?_⟩
    intro source hsource
    obtain ⟨line, hline, rfl⟩ := List.mem_map.mp hsource
    exact javadocSource_line (isTerminator_of_mem_javadocTexts hline)
  exact ((HasLines.single (by decide) (by decide)).append hinner).append
    (.single (by decide) (by decide))

theorem verbatim_javadoc (banner : String) (module : Module) (unit : String)
    (spell : ClassName → String) : Verbatim ((javadoc banner module).render unit spell).toList := by
  rw [(hasLines_javadoc banner module).toList_render]
  refine Verbatim.lines fun source hsource => ?_
  obtain ⟨line, hline, rfl⟩ := List.mem_map.mp hsource
  rcases List.mem_append.mp hline with hline | hend
  · rcases List.mem_append.mp hline with hstart | hinner
    · obtain rfl := List.mem_singleton.mp hstart
      exact verbatim_of_plain (by decide)
    · obtain ⟨text, -, rfl⟩ := List.mem_map.mp hinner
      exact verbatim_javadocSource text
  · obtain rfl := List.mem_singleton.mp hend
    exact verbatim_of_plain (by decide)

/-- What is between the mark that opens the comment and the one that ends it. -/
def javadocBody (banner : String) (module : Module) : List Char :=
  ['*'] ++ '\n' :: (((innerLines banner module).map String.toList).flatMap (· ++ ['\n']) ++ [' '])

theorem toList_render_javadoc (banner : String) (module : Module) (unit : String)
    (spell : ClassName → String) :
    ((javadoc banner module).render unit spell).toList
      = ['/', '*'] ++ javadocBody banner module ++ endMark ++ ['\n'] := by
  rw [(hasLines_javadoc banner module).toList_render]
  simp [javadocBody, endMark]

/-- Not even the star of the end mark makes an end mark with the body. -/
theorem unended_javadocBody (banner : String) (module : Module) :
    Unended (javadocBody banner module ++ ['*']) := by
  have hlines : ∀ line ∈ (innerLines banner module).map String.toList, Unended line := by
    intro source hsource
    obtain ⟨line, hline, rfl⟩ := List.mem_map.mp hsource
    obtain ⟨text, -, rfl⟩ := List.mem_map.mp hline
    exact unended_javadocSource text
  have hfirst : Unended ['*'] := unended_of_not_mem (by decide)
  have hlast : Unended [' ', '*'] := unended_of_not_mem (by decide)
  have hbody := hfirst.append (Unended.lines hlines hlast) (c := '\n') (by decide)
  simpa [javadocBody] using hbody

/-- Free text stays in the comment that it is put into, whatever it is. The comment of a
class is one block comment and a line break, its end mark the first one in it, and a text
in line comments gives lines that are line comments. Both are read as they are written
and have no tokens. -/
theorem comments_contain_text (banner : String) (module : Module) (text unit : String)
    (spell : ClassName → String) :
    ((∃ comment, ((javadoc banner module).render unit spell).toList = comment ++ ['\n']
        ∧ ['/', '*', '*'] <+: comment ∧ IsBlockComment comment)
      ∧ IsAsWritten ((javadoc banner module).render unit spell).toList
      ∧ lex ((javadoc banner module).render unit spell) = some [])
    ∧ (∃ lines : List (List Char),
        ((lineComments text).render unit spell).toList = lines.flatMap (· ++ ['\n'])
        ∧ ∀ line ∈ lines, IsLineComment line)
      ∧ IsAsWritten ((lineComments text).render unit spell).toList
      ∧ lex ((lineComments text).render unit spell) = some [] := by
  have hjavadoc := hasLines_javadoc banner module
  obtain ⟨lines, hlines, hline⟩ := hasLines_lineComments text
  have hsources : ∀ source ∈ lines.map String.toList, Verbatim source ∧ IsLineComment source := by
    intro source hsource
    obtain ⟨line, hmem, rfl⟩ := List.mem_map.mp hsource
    exact hline line hmem
  have hverbatim : Verbatim ((lineComments text).render unit spell).toList := by
    rw [hlines.toList_render]
    exact Verbatim.lines fun source hsource => (hsources source hsource).1
  have hblock := isBlockComment_of_unended (unended_javadocBody banner module)
  have hopens : ['/', '*', '*'] <+: ['/', '*'] ++ javadocBody banner module ++ endMark := by
    simp [javadocBody]
  exact ⟨⟨⟨_, toList_render_javadoc banner module unit spell, hopens, hblock⟩,
      (verbatim_javadoc banner module unit spell).isAsWritten,
      hjavadoc.lex_render (reads_javadoc banner module) unit spell⟩,
    ⟨lines.map String.toList, hlines.toList_render unit spell,
      fun source hsource => (hsources source hsource).2⟩,
    hverbatim.isAsWritten,
    hlines.lex_render (Java.reads_lineComments text) unit spell⟩

end ModuleContainers.Container
