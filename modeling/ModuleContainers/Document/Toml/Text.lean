/-!
# TOML strings

Strings stand between double quotes, with escapes, or between single quotes,
without; three quotes make a string of several lines. The texts here have lone
line feeds for line ends (`unixLines`), so no carriage return is left in them
that could be part of a string.

Every reader gives what it read and the characters after it.
-/

namespace ModuleContainers.Document.Toml

/-- A text with its line ends written as line feeds. -/
def unixLines : List Char → List Char
  | '\r' :: '\n' :: rest => '\n' :: unixLines rest
  | c :: rest => c :: unixLines rest
  | [] => []

def isBlank (c : Char) : Bool := c == ' ' || c == '\t'

/-- A character of strings and comments; no control character is one but the
tab. -/
def isTextChar (c : Char) : Bool := c == '\t' || (' ' ≤ c && c != '\x7f')

/-! ## Escapes -/

def hexDigit? (c : Char) : Option Nat :=
  if '0' ≤ c ∧ c ≤ '9' then some (c.toNat - '0'.toNat)
  else if 'a' ≤ c ∧ c ≤ 'f' then some (c.toNat - 'a'.toNat + 10)
  else if 'A' ≤ c ∧ c ≤ 'F' then some (c.toNat - 'A'.toNat + 10)
  else none

def codePoint? (length : Nat) (text : List Char) : Option (Char × List Char) := do
  let digits := text.take length
  if digits.length ≠ length then none
  let code ← digits.foldlM (fun n c => (hexDigit? c).map (n * 16 + ·)) 0
  if h : code.isValidChar then some (Char.ofNatAux code h, text.drop length) else none

def escape? : List Char → Option (Char × List Char)
  | 'b' :: rest => some ('\x08', rest)
  | 't' :: rest => some ('\t', rest)
  | 'n' :: rest => some ('\n', rest)
  | 'f' :: rest => some ('\x0c', rest)
  | 'r' :: rest => some ('\r', rest)
  | '"' :: rest => some ('"', rest)
  | '\\' :: rest => some ('\\', rest)
  | 'u' :: rest => codePoint? 4 rest
  | 'U' :: rest => codePoint? 8 rest
  | _ => none

/-! ## Strings of one line -/

/-- The characters up to the closing quote, in reverse order. -/
def lineBody (quote : Char) (escapes : Bool) :
    Nat → List Char → List Char → Option (List Char × List Char)
  | 0, _, _ => none
  | _ + 1, _, [] => none
  | steps + 1, seen, c :: rest =>
      if c = quote then some (seen, rest)
      else if c = '\\' ∧ escapes = true then do
        let (c, rest) ← escape? rest
        lineBody quote escapes steps (c :: seen) rest
      else if isTextChar c then lineBody quote escapes steps (c :: seen) rest
      else none

def lineString? (quote : Char) (text : List Char) : Option (String × List Char) :=
  (lineBody quote (quote == '"') (text.length + 1) [] text).map fun (seen, rest) =>
    (String.ofList seen.reverse, rest)

/-! ## Strings of several lines -/

/-- What follows a backslash at the end of a line: blanks and line ends up to the
next character are left out. Nothing when the backslash is not the last on its
line. -/
def foldedLine? (text : List Char) : Option (List Char) :=
  match text.dropWhile isBlank with
  | '\n' :: rest => some (rest.dropWhile fun c => isBlank c || c == '\n')
  | _ => none

/-- The characters up to the closing quotes, in reverse order. One or two quotes
are contents; of three to five the last three close the string. -/
def linesBody (quote : Char) (escapes : Bool) :
    Nat → List Char → List Char → Option (List Char × List Char)
  | 0, _, _ => none
  | _ + 1, _, [] => none
  | steps + 1, seen, c :: rest =>
      if c = quote then
        let count := ((c :: rest).takeWhile (· == quote)).length
        let after := (c :: rest).drop count
        if count ≤ 2 then linesBody quote escapes steps (List.replicate count quote ++ seen) after
        else if count ≤ 5 then some (List.replicate (count - 3) quote ++ seen, after)
        else none
      else if c = '\\' ∧ escapes = true then
        match foldedLine? rest with
        | some rest => linesBody quote escapes steps seen rest
        | none => do
            let (c, rest) ← escape? rest
            linesBody quote escapes steps (c :: seen) rest
      else if isTextChar c ∨ c = '\n' then linesBody quote escapes steps (c :: seen) rest
      else none

/-- A string of several lines, after its opening quotes. A line end right after
them is left out. -/
def linesString? (quote : Char) (text : List Char) : Option (String × List Char) :=
  let text := if text.head? = some '\n' then text.drop 1 else text
  (linesBody quote (quote == '"') (text.length + 1) [] text).map fun (seen, rest) =>
    (String.ofList seen.reverse, rest)

def string? : List Char → Option (String × List Char)
  | '"' :: '"' :: '"' :: rest => linesString? '"' rest
  | '\'' :: '\'' :: '\'' :: rest => linesString? '\'' rest
  | '"' :: rest => lineString? '"' rest
  | '\'' :: rest => lineString? '\'' rest
  | _ => none

end ModuleContainers.Document.Toml
