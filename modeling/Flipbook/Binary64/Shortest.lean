import Flipbook.Binary64

/-!
The shortest decimal text that reads back as the same number: of the decimals with the fewest
digits it is the nearest, with an even last digit where two are equally near.
-/

namespace Flipbook.Binary64

def decimalLength (value : Nat) : Nat := (Nat.toDigits 10 value).length

def leadingExponent (numerator denominator : Nat) : Int :=
  if denominator ≤ numerator then (decimalLength (numerator / denominator) : Int) - 1
  else -(decimalLength ((denominator - 1) / numerator) : Int)

/-- Numerators, over four times the units of one, of a number and of the two ends of the interval
that rounds to it. The interval holds its ends when the significand is even. -/
structure Interval where
  low : Nat
  value : Nat
  high : Nat
  closed : Bool

def Interval.ofFinite (significand shift : Nat) : Interval :=
  let step := Nat.pow 2 shift
  let narrow := significand = minNormal ∧ 0 < shift
  { low := 4 * significand * step - (if narrow then step else 2 * step)
    value := 4 * significand * step
    high := 4 * significand * step + 2 * step
    closed := significand % 2 = 0 }

def Interval.denominator : Nat := 4 * unitsPerOne

def Interval.holds (interval : Interval) (scale unit candidate : Nat) : Bool :=
  let point := candidate * unit
  if interval.closed then interval.low * scale ≤ point && point ≤ interval.high * scale
  else interval.low * scale < point && point < interval.high * scale

def Interval.onGrid? (interval : Interval) (exponent : Int) : Option Nat :=
  let scale := Nat.pow 10 (-exponent).toNat
  let unit := denominator * Nat.pow 10 exponent.toNat
  let below := interval.value * scale / unit
  let twice := 2 * (interval.value * scale % unit)
  match interval.holds scale unit below, interval.holds scale unit (below + 1) with
  | true, true =>
    if twice < unit then some below
    else if unit < twice then some (below + 1)
    else some (below + below % 2)
  | true, false => some below
  | false, true => some (below + 1)
  | false, false => none

structure Decimal where
  digits : Nat
  exponent : Int

def Interval.shortestFrom (interval : Interval) (leading : Int) : (count length : Nat) → Decimal
  | 0, _ => ⟨interval.value / denominator, 0⟩
  | count + 1, length =>
    let exponent := leading - length + 1
    match interval.onGrid? exponent with
    | some digits => ⟨digits, exponent⟩
    | none => interval.shortestFrom leading count (length + 1)

def shortest (significand shift : Nat) : Decimal :=
  let interval := Interval.ofFinite significand shift
  interval.shortestFrom (leadingExponent interval.value Interval.denominator) 17 1

def trimZeros (digits : List Char) : List Char :=
  (digits.reverse.dropWhile (· == '0')).reverse

def positionalExponents : Int × Int := (-4, 16)

def positional (digits : List Char) (leading : Int) : List Char :=
  if leading < 0 then
    '0' :: '.' :: List.replicate (-leading - 1).toNat '0' ++ digits
  else
    let whole := leading.toNat + 1
    let fraction := digits.drop whole
    digits.take whole ++ List.replicate (whole - digits.length) '0' ++
      '.' :: (if fraction.isEmpty then ['0'] else fraction)

def scientific (digits : List Char) (leading : Int) : List Char :=
  let exponent := Nat.toDigits 10 leading.natAbs
  digits.take 1 ++ (if digits.length ≤ 1 then [] else '.' :: digits.drop 1) ++
    'e' :: (if leading < 0 then '-' else '+') ::
      (if exponent.length < 2 then '0' :: exponent else exponent)

def magnitudeText (significand shift : Nat) : List Char :=
  if significand = 0 then ['0', '.', '0']
  else
    let decimal := shortest significand shift
    let written := Nat.toDigits 10 decimal.digits
    let leading := decimal.exponent + written.length - 1
    let digits := trimZeros written
    if positionalExponents.1 ≤ leading ∧ leading < positionalExponents.2 then
      positional digits leading
    else scientific digits leading

def text : Binary64 → String
  | nan => "nan"
  | infinite negative => if negative then "-inf" else "inf"
  | finite negative significand shift =>
    (if negative then "-" else "") ++ String.ofList (magnitudeText significand shift)

end Flipbook.Binary64
