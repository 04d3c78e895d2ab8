import ModuleContainers.Document.Yaml.Cursor

/-!
# Texts of YAML scalars

A scalar is written in one of five styles: plain, between single or double
quotes, and as a literal or folded block. Each style has its reader here, which
gives the text of the scalar and the place after it, or nothing when the scalar
is not well formed.

In plain and quoted scalars a run of blanks and line breaks is a `Gap`. Within a
line it stays as it is. Over a line break it becomes a space, or the breaks after
the first one if there are some.
-/

namespace ModuleContainers.Document.Yaml

/-! ## Gaps -/

/-- A run of blanks and line breaks. -/
structure Gap where
  /-- The blanks before the first break. -/
  blanks : List Char
  /-- The first break. -/
  first : List Char
  /-- The breaks after the first one. -/
  more : List Char
  /-- There is a break, or an escaped one before the run. -/
  broken : Bool
  deriving Repr, DecidableEq

namespace Gap

def none : Gap := ⟨[], [], [], false⟩

/-- The gap after an escaped break, which joins without a space. -/
def afterEscape : Gap := ⟨[], [], [], true⟩

def text (gap : Gap) : List Char :=
  if gap.broken then
    if gap.first = ['\n'] then if gap.more = [] then [' '] else gap.more
    else gap.first ++ gap.more
  else gap.blanks

/-- Reads on with a gap. At the beginning of a line a tab left of the given
column is an error. -/
def read (column : Nat) : Nat → Gap → Cursor → Option (Gap × Cursor)
  | 0, gap, cursor => some (gap, cursor)
  | steps + 1, gap, cursor =>
      let c := cursor.next
      if isBlank c then
        if gap.broken ∧ cursor.column < column ∧ c = '\t' then Option.none
        else if gap.broken then read column steps gap (cursor.skip 1)
        else read column steps { gap with blanks := gap.blanks ++ [c] } (cursor.skip 1)
      else if isBreak c then
        let added := cursor.breakText
        if gap.broken then
          read column steps { gap with more := gap.more ++ added } cursor.skipBreak
        else read column steps ⟨[], added, gap.more, true⟩ cursor.skipBreak
      else some (gap, cursor)

end Gap

/-! ## Quoted scalars -/

def hexNumber : List Char → Option Nat :=
  let step (n : Option Nat) (c : Char) : Option Nat := do
    let n ← n
    if '0' ≤ c ∧ c ≤ '9' then some (n * 16 + (c.toNat - '0'.toNat))
    else if 'a' ≤ c ∧ c ≤ 'f' then some (n * 16 + (c.toNat - 'a'.toNat + 10))
    else if 'A' ≤ c ∧ c ≤ 'F' then some (n * 16 + (c.toNat - 'A'.toNat + 10))
    else none
  List.foldl step (some 0)

def charOfCode (code : Nat) : Option Char :=
  if h : code.isValidChar then some (Char.ofNatAux code h) else none

def letterEscape : Char → Option Char
  | '0' => some '\x00'
  | 'a' => some '\x07'
  | 'b' => some '\x08'
  | 't' => some '\t'
  | '\t' => some '\t'
  | 'n' => some '\n'
  | 'v' => some '\x0b'
  | 'f' => some '\x0c'
  | 'r' => some '\r'
  | 'e' => some '\x1b'
  | ' ' => some ' '
  | '"' => some '"'
  | '/' => some '/'
  | '\\' => some '\\'
  | 'N' => some '\x85'
  | '_' => some '\xa0'
  | 'L' => some '\u2028'
  | 'P' => some '\u2029'
  | _ => none

/-- How many hexadecimal digits follow a letter that starts an escape by code
point. -/
def codeLength : Char → Option Nat
  | 'x' => some 2
  | 'u' => some 4
  | 'U' => some 8
  | _ => none

def escape (cursor : Cursor) : Option (Char × Cursor) :=
  match codeLength (cursor.peek 1) with
  | some length => do
      let digits := (cursor.rest.drop 2).take length
      if digits.length ≠ length then none
      let code ← hexNumber digits
      let c ← charOfCode code
      pure (c, cursor.skip (2 + length))
  | none => (letterEscape (cursor.peek 1)).map fun c => (c, cursor.skip 2)

/-- The characters of a quoted scalar up to the next blank, line break or closing
quote, in reverse order, and whether an escaped line break came last. -/
def quotedWord (single : Bool) : Nat → List Char → Cursor → Option (List Char × Bool × Cursor)
  | 0, _, _ => none
  | steps + 1, seen, cursor =>
      let c := cursor.next
      if isWordEnd c then some (seen, false, cursor)
      else if single ∧ c = '\'' ∧ cursor.peek 1 = '\'' then
        quotedWord single steps ('\'' :: seen) (cursor.skip 2)
      else if c = (if single then '\'' else '"') then some (seen, false, cursor)
      else if ¬single ∧ c = '\\' ∧ isBreak (cursor.peek 1) then
        some (seen, true, (cursor.skip 1).skipBreak)
      else if ¬single ∧ c = '\\' then do
        let (c, cursor) ← escape cursor
        quotedWord single steps (c :: seen) cursor
      else quotedWord single steps (c :: seen) (cursor.skip 1)

def quotedBody (single : Bool) : Nat → List Char → Cursor → Option (List Char × Cursor)
  | 0, _, _ => none
  | steps + 1, seen, cursor => do
      if cursor.atDocumentMark ∨ cursor.atEnd then none
      let (seen, escaped, cursor) ← quotedWord single (cursor.rest.length + 1) seen cursor
      if cursor.next = (if single then '\'' else '"') then pure (seen, cursor.skip 1)
      else
        let start := if escaped then Gap.afterEscape else Gap.none
        let (gap, cursor) ← Gap.read 0 (cursor.rest.length + 1) start cursor
        quotedBody single steps (gap.text.reverse ++ seen) cursor

def quotedScalar (single : Bool) (cursor : Cursor) : Option (String × Cursor) :=
  (quotedBody single (cursor.rest.length + 1) [] (cursor.skip 1)).map fun (seen, cursor) =>
    (String.ofList seen.reverse, cursor)

/-! ## Plain scalars -/

/-- The characters of a plain scalar up to a blank, a line break or whatever ends
the scalar. In flow style a colon before a delimiter is an error. -/
def plainWord (flow : Bool) : List Char → Option (List Char)
  | [] => some []
  | c :: rest =>
      let after := rest.headD endMark
      if isWordEnd c then some []
      else if flow ∧ c = ':' ∧ (isFlowDelimiter after ∨ after = '?') then none
      else if (c = ':' ∧ isWordEnd after) ∨ (flow ∧ isFlowDelimiter c) then some []
      else (plainWord flow rest).map (c :: ·)

/-- The rest of a plain scalar after a gap. A scalar in block style ends where a
line is not indented enough. The gap before the end is given back. -/
def plainBody (flow : Bool) (column : Nat) :
    Nat → List Char → Gap → Cursor → Option (List Char × Gap × Cursor)
  | 0, seen, gap, cursor => some (seen, gap, cursor)
  | steps + 1, seen, gap, cursor => do
      if cursor.atDocumentMark ∨ cursor.next = '#' then pure (seen, gap, cursor)
      else
        let word ← plainWord flow cursor.rest
        let cursor := cursor.skip word.length
        let seen := if word = [] then seen else seen ++ gap.text ++ word
        let gap := if word = [] then gap else Gap.none
        if isBlank cursor.next ∨ isBreak cursor.next then
          let (gap, cursor) ← Gap.read column (cursor.rest.length + 1) gap cursor
          if ¬flow ∧ cursor.column < column then pure (seen, gap, cursor)
          else plainBody flow column steps seen gap cursor
        else pure (seen, gap, cursor)

/-- A plain scalar whose further lines stand at the column or right of it. Gives
also whether a line break follows it, after which a key may start. -/
def plainScalar (flow : Bool) (column : Nat) (cursor : Cursor) :
    Option (String × Bool × Cursor) :=
  (plainBody flow column (cursor.rest.length + 1) [] Gap.none cursor).map
    fun (seen, gap, cursor) => (String.ofList seen, gap.broken, cursor)

/-! ## Block scalars -/

/-- What becomes of the line breaks at the end of a block scalar. -/
inductive Chomping where
  | strip
  | clip
  | keep
  deriving Repr, DecidableEq

def chompingOf : Char → Option Chomping
  | '+' => some .keep
  | '-' => some .strip
  | _ => none

def indentOf (c : Char) : Option Nat :=
  if c.isDigit then some (c.toNat - '0'.toNat) else none

def blockHeader (cursor : Cursor) : Option (Chomping × Option Nat × Cursor) := do
  let (chomping, increment, cursor) : Option Chomping × Option Nat × Cursor :=
    match chompingOf cursor.next with
    | some chomping =>
        match indentOf (cursor.peek 1) with
        | some increment => (some chomping, some increment, cursor.skip 2)
        | none => (some chomping, none, cursor.skip 1)
    | none =>
        match indentOf cursor.next with
        | some increment =>
            match chompingOf (cursor.peek 1) with
            | some chomping => (some chomping, some increment, cursor.skip 2)
            | none => (none, some increment, cursor.skip 1)
        | none => (none, none, cursor)
  if increment = some 0 then none
  let cursor ← cursor.lineEnd?
  pure (chomping.getD .clip, increment, cursor)

/-- Passes over indentation and empty lines: gives the breaks, the greatest
indentation met, and the place of the next contents. With an indentation given,
no more than that is passed over; a tab within it is an error. -/
def blockBreaks (indent : Option Nat) :
    Nat → List Char → Nat → Cursor → Option (List Char × Nat × Cursor)
  | 0, breaks, widest, cursor => some (breaks, widest, cursor)
  | steps + 1, breaks, widest, cursor =>
      let spaces := (cursor.rest.takeWhile (· == ' ')).length
      let passed := match indent with
        | some indent => min spaces (indent - cursor.column)
        | none => spaces
      let cursor := cursor.skip passed
      let widest := max widest cursor.column
      let inside : Bool := match indent with
        | some indent => decide (cursor.column < indent)
        | none => true
      if inside = true ∧ cursor.next = '\t' then none
      else if isBreak cursor.next then
        blockBreaks indent steps (breaks ++ cursor.breakText) widest cursor.skipBreak
      else some (breaks, widest, cursor)

/-- The lines of a block scalar. `lead` is the break after the line before, and
`breaks` those of the empty lines after it. In a folded scalar the break between
two lines that start without a blank becomes a space, or is dropped when empty
lines follow. -/
def blockBody (literal : Bool) (indent : Nat) :
    Nat → List Char → List Char → List Char → Bool → Cursor →
      Option (List Char × List Char × List Char × Cursor)
  | 0, seen, lead, breaks, _, cursor => some (seen, lead, breaks, cursor)
  | steps + 1, seen, lead, breaks, blankBefore, cursor => do
      if cursor.column = indent ∧ ¬cursor.atEnd then
        let blankNow := isBlank cursor.next
        let join :=
          if ¬literal ∧ lead = ['\n'] ∧ ¬blankBefore ∧ ¬blankNow then
            if breaks = [] then [' '] else breaks
          else lead ++ breaks
        let (line, cursor) := cursor.takeWhile fun c => !isBreak c
        let lead := cursor.breakText
        let cursor := if isBreak cursor.next then cursor.skipBreak else cursor
        let (breaks, _, cursor) ←
          blockBreaks (some indent) (cursor.rest.length + 1) [] 0 cursor
        blockBody literal indent steps (seen ++ join ++ line) lead breaks blankNow cursor
      else pure (seen, lead, breaks, cursor)

/-- A block scalar from its indicator on, inside a collection with the given
indentation. Without an indicator the first line with contents sets the
indentation. -/
def blockScalar (literal : Bool) (outer : Int) (cursor : Cursor) : Option (String × Cursor) := do
  let (chomping, increment, cursor) ← blockHeader (cursor.skip 1)
  let given := increment.map fun width =>
    if 0 ≤ outer then outer.toNat + width else width
  let (breaks, widest, cursor) ← blockBreaks given (cursor.rest.length + 1) [] 0 cursor
  let indent := given.getD (max widest (max (outer + 1).toNat 1))
  let (seen, lead, breaks, cursor) ←
    blockBody literal indent (cursor.rest.length + 1) [] [] breaks false cursor
  let tail := match chomping with
    | .strip => []
    | .clip => lead
    | .keep => lead ++ breaks
  pure (String.ofList (seen ++ tail), cursor)

end ModuleContainers.Document.Yaml
