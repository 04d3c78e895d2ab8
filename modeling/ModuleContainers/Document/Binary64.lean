/-!
# Binary floating-point numbers

The numbers of the 64-bit binary format, held exactly: a finite number is
`± significand · 2 ^ exponent`. Everything here is arithmetic on natural
numbers: a ratio or a decimal is rounded to the nearest number of the format,
ties going to the even significand, and a number is written with the fewest
digits that read back as it.

`exponent` is at least -1074, and the significand is below 2 ^ 53; it is at
least 2 ^ 52 unless the exponent is the least one. `ofRatio` gives numbers of
that form, and equality of numbers is equality of their parts.
-/

namespace ModuleContainers.Document

/-- A number of the 64-bit binary format. -/
inductive Binary64 where
  | finite (negative : Bool) (significand : Nat) (exponent : Int)
  | infinite (negative : Bool)
  | nan
  deriving Repr, DecidableEq

namespace Binary64

/-! ## Rounding -/

/-- The exponent of the numbers next to zero. -/
def leastExponent : Int := -1074

/-- The exponent of the greatest finite numbers. -/
def greatestExponent : Int := 971

/-- The least significand of 53 bits. -/
def leastNormal : Nat := Nat.pow 2 52

def zero (negative : Bool) : Binary64 := .finite negative 0 leastExponent

/-- The quotient rounded to the nearest natural number, a tie to the even one. -/
def roundDiv (num den : Nat) : Nat :=
  let quotient := num / den
  let rest := num % den
  if 2 * rest < den then quotient
  else if den < 2 * rest then quotient + 1
  else quotient + quotient % 2

/-- The ratio `num / den` divided by `2 ^ exponent`. -/
def scaleDown (num den : Nat) (exponent : Int) : Nat × Nat :=
  if 0 ≤ exponent then (num, den * Nat.pow 2 exponent.toNat)
  else (num * Nat.pow 2 (-exponent).toNat, den)

/-- The exponent that gives the ratio a significand of 53 bits, or the least
exponent if that one is below it. The logarithms place the ratio within a
factor of two, so one comparison decides between two candidates. -/
def exponentOf (num den : Nat) : Int :=
  let guess : Int := (num.log2 : Int) - (den.log2 : Int) - 52
  let scaled := scaleDown num den guess
  max leastExponent (if leastNormal * scaled.2 ≤ scaled.1 then guess else guess - 1)

/-- The number nearest to `± num / den`. -/
def ofRatio (negative : Bool) (num den : Nat) : Binary64 :=
  if num = 0 then zero negative
  else
    let exponent := exponentOf num den
    let scaled := scaleDown num den exponent
    let significand := roundDiv scaled.1 scaled.2
    let carried := if significand = 2 * leastNormal then (leastNormal, exponent + 1) else (significand, exponent)
    if greatestExponent < carried.2 then .infinite negative
    else .finite negative carried.1 carried.2

def ratio (significand : Nat) (exponent : Int) : Nat × Nat :=
  if 0 ≤ exponent then (significand * Nat.pow 2 exponent.toNat, 1)
  else (significand, Nat.pow 2 (-exponent).toNat)

/-- The number nearest to `± digits · 10 ^ exponent`. Far outside the range of
the format the answer is known without the power. -/
def ofDecimal (negative : Bool) (digits : Nat) (exponent : Int) : Binary64 :=
  let magnitude : Int := (Nat.toDigits 10 digits).length + exponent
  if digits = 0 ∨ magnitude < -330 then zero negative
  else if 330 < magnitude then .infinite negative
  else if 0 ≤ exponent then ofRatio negative (digits * Nat.pow 10 exponent.toNat) 1
  else ofRatio negative digits (Nat.pow 10 (-exponent).toNat)

def isZero : Binary64 → Bool
  | .finite _ significand _ => significand == 0
  | _ => false

def isFinite : Binary64 → Bool
  | .finite .. => true
  | _ => false

def mul : Binary64 → Binary64 → Binary64
  | .finite n₁ s₁ e₁, .finite n₂ s₂ e₂ =>
      let a := ratio s₁ e₁
      let b := ratio s₂ e₂
      ofRatio (n₁ != n₂) (a.1 * b.1) (a.2 * b.2)
  | _, _ => .nan

/-- The quotient of two finite magnitudes, rounded; the divisor is not zero. -/
def div : Binary64 → Binary64 → Binary64
  | .finite n₁ s₁ e₁, .finite n₂ s₂ e₂ =>
      let a := ratio s₁ e₁
      let b := ratio s₂ e₂
      ofRatio (n₁ != n₂) (a.1 * b.2) (a.2 * b.1)
  | _, _ => .nan

def neg : Binary64 → Binary64
  | .finite negative s e => .finite (!negative) s e
  | .infinite negative => .infinite (!negative)
  | .nan => .nan

/-! ## Shortest decimals -/

/-- The reals that round to a number, as numerators over one denominator: the
lower end, the number itself, the upper end. Below a power of two the numbers
lie twice as close. -/
def interval (significand : Nat) (exponent : Int) : (Nat × Nat × Nat) × Nat :=
  let below := if significand = leastNormal ∧ leastExponent < exponent then 1 else 2
  let unit := ratio 1 (exponent - 2)
  (((4 * significand - below) * unit.1, 4 * significand * unit.1,
    (4 * significand + 2) * unit.1), unit.2)

/-- The decimal on the grid of multiples of `10 ^ place` that reads back as the
number, if the grid has one; of two the nearer. -/
def onGrid (significand : Nat) (exponent : Int) (place : Int) : Option Nat :=
  let ((low, value, high), den) := interval significand exponent
  let up := Nat.pow 10 place.toNat
  let down := Nat.pow 10 (-place).toNat
  let inside (c : Nat) : Bool :=
    let point := c * up * den
    if significand % 2 = 0 then low * down ≤ point ∧ point ≤ high * down
    else low * down < point ∧ point < high * down
  let floor := value * down / (den * up)
  let rest := value * down % (den * up)
  match inside floor, inside (floor + 1) with
  | true, true =>
      some (if 2 * rest < den * up then floor
        else if den * up < 2 * rest then floor + 1
        else floor + floor % 2)
  | true, false => some floor
  | false, true => some (floor + 1)
  | false, false => none

/-- The decimal with the fewest digits that reads back as the number, as digits
and a power of ten. Grids are tried from coarse to fine; seventeen digits always
suffice, and the logarithm places the first digit within two places. -/
def shortest (significand : Nat) (exponent : Int) : Nat × Int :=
  let top : Int := ((significand.log2 : Int) + exponent) * 30103 / 100000 + 2
  let places := (List.range 24).map fun k : Nat => top - Int.ofNat k
  (places.findSome? fun place =>
    (onGrid significand exponent place).map fun digits => (digits, place)).getD (0, 0)

/-- The digits without trailing zeros; each one raises the power of ten. -/
def stripZeros : List Char → Int → List Char × Int
  | digits, place =>
      let zeros := (digits.reverse.takeWhile (· == '0')).length
      (digits.take (digits.length - zeros), place + zeros)

/-- The digits of a decimal with a point, or with an exponent outside the range
from `10 ^ -5` to `10 ^ 16`. An exponent has a sign and at least two digits. -/
def layout (digits : List Char) (place : Int) : List Char :=
  let first : Int := (digits.length : Int) - 1 + place
  if first < -5 ∨ 15 < first then
    let mantissa := match digits with
      | d :: e :: rest => d :: '.' :: e :: rest
      | short => short
    let power := Nat.toDigits 10 first.natAbs
    let padded := if power.length < 2 then '0' :: power else power
    mantissa ++ 'e' :: (if first < 0 then '-' else '+') :: padded
  else if 0 ≤ place then digits ++ List.replicate place.toNat '0' ++ ['.', '0']
  else if 0 ≤ first then
    digits.take (first.toNat + 1) ++ '.' :: digits.drop (first.toNat + 1)
  else '0' :: '.' :: (List.replicate ((-first).toNat - 1) '0' ++ digits)

def toText : Binary64 → String
  | .nan => "NaN"
  | .infinite negative => if negative then "-inf" else "inf"
  | .finite negative significand exponent =>
      let sign := if negative then ['-'] else []
      if significand = 0 then String.ofList (sign ++ ['0', '.', '0'])
      else
        let decimal := shortest significand exponent
        let stripped := stripZeros (Nat.toDigits 10 decimal.1) decimal.2
        String.ofList (sign ++ layout stripped.1 stripped.2)

end Binary64

end ModuleContainers.Document
