import ModuleContainers.Document.Datum
import ModuleContainers.Document.Toml.Text
import ModuleContainers.Document.Words

/-!
# TOML numbers and dates

An integer fits into 64 bits with a sign; it may be written in base sixteen,
eight or two, without a sign. A floating-point number has a fraction, an exponent
or both. A single underscore may stand between two digits. No number but zero
starts with a zero.

A date, a time of day, or both together are a value of their own, which is kept
as it is written under a tag of its own (`dateTimeTag`).
-/

namespace ModuleContainers.Document.Toml

/-! ## Digits -/

/-- Digits with single underscores between them, and the rest; the digits are
given without the underscores. -/
def digitGroup? (isDigit : Char → Bool) (text : List Char) : Option (List Char × List Char) :=
  let isPart (c : Char) : Bool := isDigit c || c == '_'
  let group := text.takeWhile isPart
  let alone := (group.zip (group.drop 1)).all fun (a, b) => a != '_' || b != '_'
  if group = [] ∨ group.head? = some '_' ∨ group.getLast? = some '_' ∨ ¬alone then none
  else some (group.filter (· != '_'), text.dropWhile isPart)

def ofDigits (base : Nat) (digits : List Char) : Nat :=
  digits.foldl (fun n c => n * base + (hexDigit? c).getD 0) 0

def isDigitOf (base : Nat) (c : Char) : Bool :=
  match hexDigit? c with
  | some value => value < base
  | none => false

/-! ## Integers and floating-point numbers -/

/-- An integer, if it fits into 64 bits. -/
def integer? (n : Int) : Option Datum :=
  if isSigned 64 n then some (.int n) else none

/-- An integer in another base than ten, after the mark of the base. -/
def basedInteger? (base : Nat) (text : List Char) : Option (Datum × List Char) := do
  let (digits, rest) ← digitGroup? (isDigitOf base) text
  let value ← integer? (ofDigits base digits)
  pure (value, rest)

def fraction? : List Char → Option (Option (List Char) × List Char)
  | '.' :: rest => (digitGroup? Char.isDigit rest).map fun (digits, rest) => (some digits, rest)
  | rest => some (none, rest)

/-- A sign, if there is one, and whether it is a minus. -/
def sign : List Char → Bool × List Char
  | '-' :: rest => (true, rest)
  | '+' :: rest => (false, rest)
  | rest => (false, rest)

def exponent? : List Char → Option (Option Int × List Char)
  | [] => some (none, [])
  | c :: rest =>
      if c = 'e' ∨ c = 'E' then do
        let (negative, rest) := sign rest
        let (digits, rest) ← digitGroup? Char.isDigit rest
        let size : Int := ofDigits 10 digits
        pure (some (if negative then -size else size), rest)
      else some (none, c :: rest)

def decimal? (negative : Bool) (text : List Char) : Option (Datum × List Char) := do
  let (whole, rest) ← digitGroup? Char.isDigit text
  if whole.head? = some '0' ∧ whole.length ≠ 1 then none
  let (fraction, rest) ← fraction? rest
  let (exponent, rest) ← exponent? rest
  if fraction.isNone ∧ exponent.isNone then
    let size : Int := ofDigits 10 whole
    let value ← integer? (if negative then -size else size)
    pure (value, rest)
  else
    let places := fraction.getD []
    let value := Binary64.ofDecimal negative (ofDigits 10 (whole ++ places))
      (exponent.getD 0 - places.length)
    if value = .infinite false then none else pure (.float value, rest)

def number? (text : List Char) : Option (Datum × List Char) :=
  match text with
  | '0' :: 'x' :: rest => basedInteger? 16 rest
  | '0' :: 'o' :: rest => basedInteger? 8 rest
  | '0' :: 'b' :: rest => basedInteger? 2 rest
  | _ =>
      let (negative, rest) := sign text
      match rest with
      | 'i' :: 'n' :: 'f' :: rest => some (.float (.infinite negative), rest)
      | 'n' :: 'a' :: 'n' :: rest => some (.float .nan, rest)
      | rest => decimal? negative rest

/-! ## Dates and times -/

def dateTimeTag : String := "date-time"

def fixed? (count : Nat) (text : List Char) : Option (Nat × List Char) :=
  let digits := text.take count
  if digits.length = count ∧ digits.all Char.isDigit then
    some (ofDigits 10 digits, text.drop count)
  else none

def fixedIn? (count low high : Nat) (text : List Char) : Option (Nat × List Char) := do
  let (value, rest) ← fixed? count text
  if low ≤ value ∧ value ≤ high then some (value, rest) else none

def after? (c : Char) : List Char → Option (List Char)
  | d :: rest => if c = d then some rest else none
  | [] => none

def daysIn (year month : Nat) : Nat :=
  if month = 2 then
    if (year % 4 = 0 ∧ year % 100 ≠ 0) ∨ year % 400 = 0 then 29 else 28
  else if month ∈ [4, 6, 9, 11] then 30
  else 31

/-- The rest after a date. -/
def date? (text : List Char) : Option (List Char) := do
  let (year, rest) ← fixed? 4 text
  let (month, rest) ← fixedIn? 2 1 12 (← after? '-' rest)
  let (_, rest) ← fixedIn? 2 1 (daysIn year month) (← after? '-' rest)
  pure rest

def hoursMinutes? (text : List Char) : Option (List Char) := do
  let (_, rest) ← fixedIn? 2 0 23 text
  let (_, rest) ← fixedIn? 2 0 59 (← after? ':' rest)
  pure rest

def time? (text : List Char) : Option (List Char) := do
  let rest ← hoursMinutes? text
  let (_, rest) ← fixedIn? 2 0 60 (← after? ':' rest)
  match rest with
  | '.' :: digits =>
      if (digits.takeWhile Char.isDigit).isEmpty then none
      else some (digits.dropWhile Char.isDigit)
  | rest => some rest

/-- The rest after an offset from universal time, if there is one. -/
def offset? : List Char → Option (List Char)
  | [] => some []
  | c :: rest =>
      if c = 'Z' ∨ c = 'z' then some rest
      else if c = '+' ∨ c = '-' then hoursMinutes? rest
      else some (c :: rest)

def timeOfDate? : List Char → Option (List Char)
  | [] => some []
  | c :: rest =>
      if c = 'T' ∨ c = 't' ∨ (c = ' ' ∧ (fixed? 2 rest).isSome) then do
        let rest ← time? rest
        offset? rest
      else some (c :: rest)

def startsDate (text : List Char) : Bool :=
  (fixed? 4 text).any fun found => found.2.head? == some '-'

def startsTime (text : List Char) : Bool :=
  (fixed? 2 text).any fun found => found.2.head? == some ':'

def dateTime? (text : List Char) : Option (Datum × List Char) := do
  let rest ← if startsDate text then (date? text).bind timeOfDate? else time? text
  let written := text.take (text.length - rest.length)
  pure (.tagged dateTimeTag (.text (String.ofList written)), rest)

def numberOrDate? (text : List Char) : Option (Datum × List Char) :=
  if startsDate text ∨ startsTime text then dateTime? text else number? text

end ModuleContainers.Document.Toml
