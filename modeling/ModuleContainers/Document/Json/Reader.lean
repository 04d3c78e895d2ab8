import ModuleContainers.Document.Json.Number

/-!
# Reading JSON text

`Json.read?` reads one JSON value with blanks around it and nothing else. Lists
and objects may be nested `maxDepth` levels deep. Of two equal keys of an object
the later one counts.

A reader takes the characters that are left and gives what it read together
with the rest. Every step of the mutual readers uses up a character or hands
over to a reader that does, so twice the length of the text bounds their steps.
-/

namespace ModuleContainers.Document.Json

/-- How deep lists and objects may be nested. -/
def maxDepth : Nat := 127

def isGap (c : Char) : Bool := c == ' ' || c == '\n' || c == '\t' || c == '\r'

def skipGaps (text : List Char) : List Char := text.dropWhile isGap

/-! ## Numbers -/

/-- The leading decimal digits, as values, and the rest. -/
def digits : List Char → List Nat × List Char
  | [] => ([], [])
  | c :: rest =>
      if c.isDigit then
        let (values, rest) := digits rest
        ((c.toNat - '0'.toNat) :: values, rest)
      else ([], c :: rest)

def natOfDigits (values : List Nat) : Nat := values.foldl (fun n d => n * 10 + d) 0

/-- The part after a point: at least one digit. -/
def fractionPart : List Char → Option (List Nat × List Char)
  | '.' :: rest =>
      match digits rest with
      | ([], _) => none
      | found => some found
  | other => some ([], other)

/-- The part after an exponent mark: a sign, if any, and at least one digit. -/
def exponentPart : List Char → Option (Option Int × List Char)
  | mark :: rest =>
      if mark = 'e' ∨ mark = 'E' then
        let (negative, rest) : Bool × List Char := match rest with
          | '+' :: rest => (false, rest)
          | '-' :: rest => (true, rest)
          | rest => (false, rest)
        match digits rest with
        | ([], _) => none
        | (values, rest) =>
            let size : Int := natOfDigits values
            some (some (if negative then -size else size), rest)
      else some (none, mark :: rest)
  | [] => some (none, [])

/-- A number without its sign. A leading zero stands alone. -/
def number (negative : Bool) (text : List Char) : Option (Json × List Char) := do
  let (whole, afterWhole) := digits text
  if whole = [] ∨ (whole.head? = some 0 ∧ whole.length ≠ 1) then none
  let (fraction, afterFraction) ← fractionPart afterWhole
  let (exponent, rest) ← exponentPart afterFraction
  let plain := decide (fraction = [] ∧ exponent = none)
  let value ← Numeral.value ⟨negative, whole, fraction, exponent, plain⟩
  pure (value, rest)

/-! ## Strings -/

def hexValue (c : Char) : Option Nat :=
  if '0' ≤ c ∧ c ≤ '9' then some (c.toNat - '0'.toNat)
  else if 'a' ≤ c ∧ c ≤ 'f' then some (c.toNat - 'a'.toNat + 10)
  else if 'A' ≤ c ∧ c ≤ 'F' then some (c.toNat - 'A'.toNat + 10)
  else none

def hexUnit : List Char → Option (Nat × List Char)
  | a :: b :: c :: d :: rest => do
      let a ← hexValue a
      let b ← hexValue b
      let c ← hexValue c
      let d ← hexValue d
      pure (((a * 16 + b) * 16 + c) * 16 + d, rest)
  | _ => none

/-- The character of an escape by code unit. A unit of the upper half of a pair
has to be followed by the escape of a unit of the lower half. -/
def unitEscape (text : List Char) : Option (Char × List Char) := do
  let (unit, rest) ← hexUnit text
  if 0xDC00 ≤ unit ∧ unit ≤ 0xDFFF then none
  else if 0xD800 ≤ unit ∧ unit ≤ 0xDBFF then
    match rest with
    | '\\' :: 'u' :: rest => do
        let (low, rest) ← hexUnit rest
        if 0xDC00 ≤ low ∧ low ≤ 0xDFFF then
          pure (Char.ofNat (0x10000 + (unit - 0xD800) * 0x400 + (low - 0xDC00)), rest)
        else none
    | _ => none
  else pure (Char.ofNat unit, rest)

def escape : List Char → Option (Char × List Char)
  | '"' :: rest => some ('"', rest)
  | '\\' :: rest => some ('\\', rest)
  | '/' :: rest => some ('/', rest)
  | 'b' :: rest => some ('\x08', rest)
  | 'f' :: rest => some ('\x0c', rest)
  | 'n' :: rest => some ('\n', rest)
  | 'r' :: rest => some ('\r', rest)
  | 't' :: rest => some ('\t', rest)
  | 'u' :: rest => unitEscape rest
  | _ => none

/-- The characters up to the closing quote, in reverse order. -/
def stringBody : Nat → List Char → List Char → Option (List Char × List Char)
  | 0, _, _ => none
  | _ + 1, _, [] => none
  | _ + 1, seen, '"' :: rest => some (seen, rest)
  | steps + 1, seen, '\\' :: rest => do
      let (c, rest) ← escape rest
      stringBody steps (c :: seen) rest
  | steps + 1, seen, c :: rest =>
      if c.toNat < 0x20 then none else stringBody steps (c :: seen) rest

def string (text : List Char) : Option (String × List Char) :=
  (stringBody (text.length + 1) [] text).map fun (seen, rest) =>
    (String.ofList seen.reverse, rest)

/-! ## Values -/

/-- The rest of a text that starts with the given word. -/
def dropWord : List Char → List Char → Option (List Char)
  | [], rest => some rest
  | _ :: _, [] => none
  | w :: word, c :: rest => if w = c then dropWord word rest else none

mutual

/-- One value, from its first character on. -/
def value : Nat → Nat → List Char → Option (Json × List Char)
  | 0, _, _ => none
  | steps + 1, depth, source =>
      match skipGaps source with
      | '{' :: rest =>
          if depth = 0 then none
          else match skipGaps rest with
            | '}' :: rest => some (.object [], rest)
            | rest => members steps (depth - 1) [] rest
      | '[' :: rest =>
          if depth = 0 then none
          else match skipGaps rest with
            | ']' :: rest => some (.list [], rest)
            | rest => items steps (depth - 1) [] rest
      | '"' :: rest => (string rest).map fun (s, rest) => (.text s, rest)
      | '-' :: rest => number true rest
      | 't' :: rest => (dropWord ['r', 'u', 'e'] rest).map (.bool true, ·)
      | 'f' :: rest => (dropWord ['a', 'l', 's', 'e'] rest).map (.bool false, ·)
      | 'n' :: rest => (dropWord ['u', 'l', 'l'] rest).map (.null, ·)
      | rest => number false rest

def items : Nat → Nat → List Json → List Char → Option (Json × List Char)
  | 0, _, _, _ => none
  | steps + 1, depth, seen, source => do
      let (item, rest) ← value steps depth source
      match skipGaps rest with
      | ',' :: rest => items steps depth (item :: seen) rest
      | ']' :: rest => pure (.list (item :: seen).reverse, rest)
      | _ => none

def members : Nat → Nat → List (String × Json) → List Char → Option (Json × List Char)
  | 0, _, _, _ => none
  | steps + 1, depth, seen, source =>
      match skipGaps source with
      | '"' :: rest => do
          let (key, rest) ← string rest
          match skipGaps rest with
          | ':' :: rest => do
              let (item, rest) ← value steps depth rest
              match skipGaps rest with
              | ',' :: rest => members steps depth (insert key item seen) rest
              | '}' :: rest => pure (.object (insert key item seen), rest)
              | _ => none
          | _ => none
      | _ => none

end

/-- The value that a JSON text holds; nothing when it is not JSON. -/
def read? (text : String) : Option Json :=
  let characters := text.toList
  match value (2 * characters.length + 2) maxDepth characters with
  | some (found, rest) => if skipGaps rest = [] then some found else none
  | none => none

end ModuleContainers.Document.Json
