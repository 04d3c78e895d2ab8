import ModuleContainers.Proofs.Java.Fragment
import ModuleContainers.Proofs.Java.ImportTable

/-!
# Files as tokens

The tokens of a file are those of its package clause, of its imports and of its body, with
every class spelled as the import table has it. They do not depend on the unit of
indentation, as long as that is blank (`lex_render`).

The body is known by its outline. The outline says both what the table is made from, which
are the references of the body in order, and where the spellings of the table go, so that
the tokens of a file are a function of the package, the type and the outline (`fileTokens`).
-/

namespace ModuleContainers.Java

open Lexical (ReadsAs Token mem_pathTokens pathTokens)

namespace ImportTable

variable {package own : String} {types : List ClassName}

theorem isPath_nameOf (table : ImportTable) {c : ClassName} (h : c.WellFormed) :
    IsPath (table.nameOf c) := by
  unfold nameOf
  split
  · split
    · exact h.isPath_nestedPath
    · exact h.isPath_canonical
  · exact h.isPath_canonical

theorem isPath_imports (h : ∀ c ∈ types, c.WellFormed) :
    ∀ target ∈ (build package own types).imports, IsPath target := by
  intro target htarget
  obtain ⟨c, hfirst, -, -, -, -, rfl⟩ := mem_imports_build.mp htarget
  have hc := h c (List.mem_of_find?_eq_some hfirst)
  have htop : c.topLevel.WellFormed :=
    ⟨hc.package, fun name hname => hc.names name (by simp_all [ClassName.names, ClassName.topLevel,
      ClassName.top])⟩
  exact htop.isPath_canonical

end ImportTable

namespace CompilationUnit

/-- The clause of the package; a class in no package has none. -/
def packageTokens (package : String) : List Token :=
  if package = "" then []
  else codeTokens "package " ++ pathTokens package ++ codeTokens ";"

def importTokens (target : String) : List Token :=
  codeTokens "import " ++ pathTokens target ++ codeTokens ";"

/-- The tokens of a file whose body has the outline. -/
def fileTokens (package typeName : String) (outline : Outline) : List Token :=
  let table := ImportTable.build package typeName outline.references
  packageTokens package ++ table.imports.flatMap importTokens ++ outline.tokens table.nameOf

theorem readsAs_packageClause {package : String} (h : IsPath package) :
    ReadsAs .sealed (packageClause package).toList (packageTokens package) := by
  unfold packageClause packageTokens
  split
  · exact Lexical.readsAs_nil
  · have hopen : ReadsAs .sealed "package ".toList (codeTokens "package ") := by decide
    have hclose : ReadsAs .sealed (';' :: ['\n', '\n']) (codeTokens ";") := by decide
    simpa using (hopen.append (Lexical.readsAs_path h)).append_stop hclose (by decide)

/-- Each clause is a line of its own, and a blank line stands behind the last one if there are
any. -/
theorem readsAs_importClauses {imports : List String} (h : ∀ target ∈ imports, IsPath target) :
    ReadsAs .sealed (importClauses imports).toList (imports.flatMap importTokens) := by
  have hall : ReadsAs .sealed (String.join (imports.map fun target =>
      "import " ++ target ++ ";\n")).toList (imports.flatMap importTokens) := by
    induction imports with
    | nil => exact Lexical.readsAs_nil
    | cons target rest ih =>
        have hrest := ih fun other ho => h other (List.mem_cons_of_mem _ ho)
        have hopen : ReadsAs .sealed "import ".toList (codeTokens "import ") := by decide
        have hclose : ReadsAs .sealed (';' :: ['\n']) (codeTokens ";") := by decide
        have hpath := Lexical.readsAs_path (h target (List.mem_cons_self ..))
        have hline := ((hopen.append hpath).append_stop hclose (by decide)).append hrest
        simpa [importTokens] using hline
  unfold importClauses
  split
  · next hnil => simpa [hnil] using Lexical.readsAs_nil
  · have hbreak : ReadsAs .sealed ['\n'] [] := by decide
    simpa using hall.append hbreak

section Body

variable {file : CompilationUnit} {outline : Outline} (hbody : file.body.Reads .sealed outline)

include hbody

/-- The table is made from the types of the fragment, which are the references of its
outline. -/
theorem importTable_eq :
    file.importTable = ImportTable.build file.package file.typeName outline.references := by
  rw [importTable, hbody.types]

theorem isPath_importTable : ∀ target ∈ file.importTable.imports, IsPath target := by
  rw [importTable_eq hbody]
  exact ImportTable.isPath_imports hbody.wellFormed

/-- The tokens as they are rendered, with the table of the file itself. -/
theorem fileTokens_eq :
    fileTokens file.package file.typeName outline
      = packageTokens file.package ++ file.importTable.imports.flatMap importTokens
        ++ outline.tokens file.importTable.nameOf := by
  rw [fileTokens, importTable_eq hbody]

end Body

/-- The source is read as the tokens of the file. The last line may have been ended by the body
already, hence the two cases; a line break more makes no token. -/
theorem lex_render {file : CompilationUnit} {outline : Outline} (hpackage : IsPath file.package)
    (hbody : file.body.Reads .sealed outline) {unit : String}
    (hunit : ∀ c ∈ unit.toList, c = ' ' ∨ c = '\t') :
    Lexical.lex (file.render unit) = some (fileTokens file.package file.typeName outline) := by
  have hspell : ∀ c : ClassName, c.WellFormed → IsPath (file.importTable.nameOf c) := fun c hc =>
    ImportTable.isPath_nameOf _ hc
  have hsource := hbody.source ⟨unit, _, hunit, hspell⟩ 0 true
  have hwhole := ((readsAs_packageClause hpackage).append
    (readsAs_importClauses (isPath_importTable hbody))).append hsource
  have hbreak : ReadsAs .sealed ['\n'] [] := by decide
  have hclosed := hwhole.append hbreak
  rw [List.append_nil] at hclosed
  rw [fileTokens_eq hbody]
  unfold render closeLine
  dsimp only
  split
  · exact ReadsAs.lex (e := .sealed) (by simpa [Fragment.source, Fragment.render] using hwhole)
  · exact ReadsAs.lex (e := .sealed) (by simpa [Fragment.source, Fragment.render] using hclosed)

end CompilationUnit

/-! ## Reserved words

A word that is no identifier is in no path, so wherever it is in the tokens of an
outline, it is a lexeme of the outline. -/

section Reserved

variable {keyword : String} (hkeyword : isIdentifier keyword = false)

include hkeyword

/-- A path has identifiers and dots as its tokens. -/
theorem word_not_mem_path {text : String} (h : IsPath text) : .word keyword ∉ pathTokens text := by
  intro hmem
  rcases mem_pathTokens hmem with hdot | ⟨part, hpart, heq⟩
  · cases hdot
  · obtain rfl := Token.word.inj heq
    rw [h keyword hpart] at hkeyword
    cases hkeyword

/-- The clauses have a keyword of their own, which is another one. -/
theorem word_not_mem_clauses (hpackage : keyword ≠ "package") (himport : keyword ≠ "import")
    {package : String} (hpath : IsPath package) {imports : List String}
    (himports : ∀ target ∈ imports, IsPath target) :
    .word keyword ∉ CompilationUnit.packageTokens package
      ++ imports.flatMap CompilationUnit.importTokens := by
  have hclause : ∀ before : String, keyword ≠ before → ∀ text, IsPath text →
      .word keyword ∉ [.word before] ++ pathTokens text ++ [.symbol ";"] := by
    intro before hbefore text htext
    simp [hbefore, word_not_mem_path hkeyword htext]
  have hpackageWord : codeTokens "package " = [.word "package"] := by decide
  have himportWord : codeTokens "import " = [.word "import"] := by decide
  have hend : codeTokens ";" = [.symbol ";"] := by decide
  intro hmem
  rcases List.mem_append.mp hmem with h | h
  · unfold CompilationUnit.packageTokens at h
    rw [hpackageWord, hend] at h
    split at h
    · cases h
    · exact hclause _ hpackage package hpath h
  · obtain ⟨target, htarget, htoken⟩ := List.mem_flatMap.mp h
    rw [CompilationUnit.importTokens, himportWord, hend] at htoken
    exact hclause _ himport target (himports target htarget) htoken

/-- A reserved word splits the tokens of an outline where the lexeme splits the outline. The
induction is on the outline; a class covers several tokens, and the word is not one of them. -/
theorem Outline.exists_of_tokens_eq {spell : ClassName → String} {p : Outline}
    (hspell : ∀ c ∈ p.references, IsPath (spell c)) {before after : List Token}
    (h : p.tokens spell = before ++ .word keyword :: after) :
    ∃ x y : Outline, p = x ++ .token (.word keyword) :: y ∧ x.tokens spell = before
      ∧ y.tokens spell = after := by
  induction p generalizing before with
  | nil => simp [tokens] at h
  | cons lexeme rest ih =>
      cases lexeme with
      | token token =>
          have htokens : tokens spell (.token token :: rest) = token :: tokens spell rest := rfl
          rw [htokens] at h
          cases before with
          | nil =>
              obtain ⟨rfl, rfl⟩ := List.cons.inj h
              exact ⟨[], rest, rfl, rfl, rfl⟩
          | cons first before =>
              obtain ⟨rfl, hrest⟩ := List.cons.inj h
              obtain ⟨x, y, rfl, rfl, rfl⟩ := ih hspell hrest
              exact ⟨.token token :: x, y, rfl, rfl, rfl⟩
      | reference target =>
          have hpath := word_not_mem_path hkeyword (hspell target (List.mem_cons_self ..))
          have hrest : ∀ c ∈ references rest, IsPath (spell c) := fun c hc =>
            hspell c (List.mem_cons_of_mem _ hc)
          have htokens : tokens spell (.reference target :: rest)
              = pathTokens (spell target) ++ tokens spell rest := rfl
          rw [htokens] at h
          -- The word is in no path, so it stands behind the whole path.
          obtain ⟨middle, rfl, hmiddle⟩ := Text.exists_of_append_eq_append_cons h hpath
          obtain ⟨x, y, rfl, rfl, rfl⟩ := ih hrest hmiddle
          exact ⟨.reference target :: x, y, rfl, rfl, rfl⟩

end Reserved

end ModuleContainers.Java
