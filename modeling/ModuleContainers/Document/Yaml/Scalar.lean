import ModuleContainers.Document.Datum
import ModuleContainers.Document.Words

/-!
# Values of YAML scalars

A plain scalar is null, a truth value or a number if it is written like one, and
a text otherwise. Digits after a leading zero are no number. An integer that
fits into 128 bits but not into 64 is refused (`plain?` gives nothing), one that
does not fit into 128 bits is a floating-point number.

A standard tag says what the scalar has to be.
-/

namespace ModuleContainers.Document.Yaml

/-! ## Integers -/

def digitValue (c : Char) : Option Nat :=
  if '0' ≤ c ∧ c ≤ '9' then some (c.toNat - '0'.toNat)
  else if 'a' ≤ c ∧ c ≤ 'z' then some (c.toNat - 'a'.toNat + 10)
  else if 'A' ≤ c ∧ c ≤ 'Z' then some (c.toNat - 'A'.toNat + 10)
  else none

def ofDigits? (base : Nat) : List Char → Option Nat
  | [] => none
  | digits => digits.foldlM (fun n c => do
      let d ← digitValue c
      if d < base then pure (n * base + d) else none) 0

def hasLeadingZero : List Char → Bool
  | '0' :: c :: rest => (c :: rest).all Char.isDigit
  | _ => false

def magnitude? : List Char → Option Nat
  | '0' :: 'x' :: digits => ofDigits? 16 digits
  | '0' :: 'o' :: digits => ofDigits? 8 digits
  | '0' :: 'b' :: digits => ofDigits? 2 digits
  | digits => if hasLeadingZero digits then none else ofDigits? 10 digits

def integer? : List Char → Option Int
  | '-' :: digits => (magnitude? digits).map fun n => -(n : Int)
  | '+' :: digits => (magnitude? digits).map fun n => (n : Int)
  | digits => (magnitude? digits).map fun n => (n : Int)

def fits (bits : Nat) (n : Int) : Bool := isSigned bits n || isUnsigned bits n

/-! ## Floating-point numbers -/

def exponent? : List Char → Option Int
  | [] => some 0
  | e :: rest =>
      if e = 'e' ∨ e = 'E' then
        match rest with
        | '-' :: digits => (ofDigits? 10 digits).map fun n => -(n : Int)
        | '+' :: digits => (ofDigits? 10 digits).map fun n => (n : Int)
        | digits => (ofDigits? 10 digits).map fun n => (n : Int)
      else none

/-- A decimal without a sign: digits, a point among them or none, an exponent or
none. -/
def decimal? (negative : Bool) (chars : List Char) : Option Binary64 := do
  let whole := chars.takeWhile Char.isDigit
  let rest := chars.dropWhile Char.isDigit
  let (fraction, rest) := match rest with
    | '.' :: rest => (rest.takeWhile Char.isDigit, rest.dropWhile Char.isDigit)
    | rest => ([], rest)
  let exponent ← exponent? rest
  let digits ← ofDigits? 10 (whole ++ fraction)
  pure (.ofDecimal negative digits (exponent - fraction.length))

def infinities : List String := [".inf", ".Inf", ".INF"]

def undefinedNumbers : List String := [".nan", ".NaN", ".NAN"]

/-- A floating-point number. A decimal has to be in range. -/
def float? (content : String) : Option Binary64 :=
  let finite (negative : Bool) (chars : List Char) : Option Binary64 :=
    (decimal? negative chars).filter Binary64.isFinite
  if content ∈ infinities then some (.infinite false)
  else if content ∈ undefinedNumbers then some .nan
  else match content.toList with
    | '-' :: chars =>
        if String.ofList chars ∈ infinities then some (.infinite true) else finite true chars
    | '+' :: chars =>
        if String.ofList chars ∈ infinities then some (.infinite false) else finite false chars
    | chars => finite false chars

/-! ## Plain scalars -/

def nulls : List String := ["null", "Null", "NULL", "~"]

def truth? (content : String) : Option Bool :=
  if content ∈ ["true", "True", "TRUE"] then some true
  else if content ∈ ["false", "False", "FALSE"] then some false
  else none

/-- The digits of the scalar make no number because of a leading zero. -/
def isDigitText (content : String) : Bool :=
  match content.toList with
  | '-' :: digits | '+' :: digits => hasLeadingZero digits
  | digits => hasLeadingZero digits

def plain? (content : String) : Option Datum :=
  if content = "" ∨ content ∈ nulls then some .null
  else match truth? content with
    | some b => some (.bool b)
    | none =>
        match (integer? content.toList).filter (fits 128) with
        | some n => if fits 64 n then some (.int n) else none
        | none =>
            if isDigitText content then some (.text content)
            else match float? content with
              | some x => some (.float x)
              | none => some (.text content)

def untagged? (content : String) (isPlain : Bool) : Option Datum :=
  if isPlain then plain? content else some (.text content)

/-! ## Standard tags -/

/-- The value of a scalar with a tag that is not its own. -/
def standardTagged? (tag : String) (content : String) : Option Datum :=
  if tag = "tag:yaml.org,2002:bool" then (truth? content).map .bool
  else if tag = "tag:yaml.org,2002:int" then
    ((integer? content.toList).filter (fits 64)).map .int
  else if tag = "tag:yaml.org,2002:float" then (float? content).map .float
  else if tag = "tag:yaml.org,2002:null" then
    if content ∈ nulls then some .null else none
  else some (.text content)

end ModuleContainers.Document.Yaml
