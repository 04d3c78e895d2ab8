import ModuleContainers.Document.Json
import ModuleContainers.Document.Words

/-!
# The value of a JSON number

A number without fraction and exponent that fits into 64 bits is an integer. Any
other number is a floating-point number, computed in two rounded steps: the
leading digits, as many as fit into 64 bits, are rounded to a significand, and
that is multiplied or divided by a rounded power of ten. A number too great for
the format is refused; one too small is zero. A negative zero is not an
integer, so that its sign is kept.
-/

namespace ModuleContainers.Document.Json

/-- The parts of a number as written. Digits are values from 0 to 9. -/
structure Numeral where
  negative : Bool
  whole : List Nat
  fraction : List Nat
  exponent : Option Int
  /-- The number is written without a point and without an exponent. -/
  plain : Bool
  deriving Repr, DecidableEq

/-- Appends digits to a significand while it stays within 64 bits; gives the
significand and the digits left out. -/
def absorb : Nat → List Nat → Nat × List Nat
  | significand, [] => (significand, [])
  | significand, d :: rest =>
      if isUnsigned 64 ((significand * 10 + d : Nat) : Int) then absorb (significand * 10 + d) rest
      else (significand, d :: rest)

/-- Brings the exponent of a fraction into the range of the powers of ten the
format has, dividing by the greatest of them. Nothing but zero is left after a
few divisions, so four are enough. -/
def raise : Nat → Binary64 → Int → Binary64 × Int
  | 0, value, exponent => (value, exponent)
  | steps + 1, value, exponent =>
      if -308 ≤ exponent then (value, exponent)
      else if value.isZero then (value, 0)
      else raise steps (value.div (.ofDecimal false 1 308)) (exponent + 308)

/-- `significand · 10 ^ exponent`; nothing when it is out of range. -/
def scaled (significand : Nat) (exponent : Int) : Option Binary64 :=
  let start := Binary64.ofRatio false significand 1
  let (value, power) := raise 4 start exponent
  if 308 < power then if value.isZero then some value else none
  else if 0 ≤ power then
    let product := value.mul (.ofDecimal false 1 power)
    if product.isFinite then some product else none
  else if power < -308 then some (.zero false)
  else some (value.div (.ofDecimal false 1 (-power)))

def Numeral.value (number : Numeral) : Option Json :=
  let (leading, dropped) := absorb 0 number.whole
  if number.plain ∧ dropped = [] then
    if ¬number.negative then some (.int leading)
    else if 0 < leading ∧ isSigned 64 (-leading) then some (.int (-leading))
    else some (.float (Binary64.ofRatio true leading 1))
  else
    let (significand, unread) := absorb leading number.fraction
    let places : Int := dropped.length - (number.fraction.length - unread.length : Int)
    (scaled significand (places + number.exponent.getD 0)).map fun magnitude =>
      .float (if number.negative then magnitude.neg else magnitude)

end ModuleContainers.Document.Json
