/-!
Double precision numbers in exact integer arithmetic. Every finite number is a whole multiple of
the least positive one, two to the power of -1074, which serves as the unit.
-/

namespace Flipbook

/-- `finite` stands for `significand * 2 ^ shift` units. Numbers made by `Binary64.round` have a
significand below two to the power of 53, and of at least half that unless `shift` is zero. -/
inductive Binary64
  | nan
  | infinite (negative : Bool)
  | finite (negative : Bool) (significand shift : Nat)
deriving DecidableEq

namespace Binary64

def unitsPerOne : Nat := Nat.pow 2 1074

def minNormal : Nat := 0x10000000000000

def maxShift : Nat := 2045

def roundHalfEven (numerator denominator : Nat) : Nat :=
  let quotient := numerator / denominator
  let twice := 2 * (numerator % denominator)
  if twice < denominator then quotient
  else if denominator < twice then quotient + 1
  else quotient + quotient % 2

/-- The number nearest to a quotient, with its significand even where two are equally near. -/
def round (negative : Bool) (numerator denominator : Nat) : Binary64 :=
  let units := numerator * unitsPerOne
  let shift := (units / denominator).log2 - 52
  let significand := roundHalfEven units (denominator * Nat.pow 2 shift)
  if significand = 2 * minNormal then
    if shift + 1 > maxShift then infinite negative else finite negative minNormal (shift + 1)
  else if shift > maxShift then infinite negative
  else finite negative significand shift

def ofInt (value : Int) : Binary64 := round (value < 0) value.natAbs 1

def units (negative : Bool) (significand shift : Nat) : Int :=
  let magnitude : Int := (significand * Nat.pow 2 shift : Nat)
  if negative then -magnitude else magnitude

def truncate (negative : Bool) (significand shift : Nat) : Int :=
  (units negative significand shift).tdiv unitsPerOne

def compareUnits (number : Binary64) (other : Int) : Option Ordering :=
  match number with
  | nan => none
  | infinite negative => some (if negative then .lt else .gt)
  | finite negative significand shift => some (compare (units negative significand shift) other)

def compareInt (number : Binary64) (other : Int) : Option Ordering :=
  number.compareUnits (other * unitsPerOne)

def compare (left right : Binary64) : Option Ordering :=
  match right with
  | nan => none
  | infinite negative =>
    match left with
    | nan => none
    | infinite other => some (if other = negative then .eq else if other then .lt else .gt)
    | finite .. => some (if negative then .gt else .lt)
  | finite negative significand shift => left.compareUnits (units negative significand shift)

def isZero (number : Binary64) : Bool := number.compareInt 0 = some .eq

end Binary64

end Flipbook
