import Flipbook.Binary64
import Flipbook.Text.Numeral

/-!
Reading of decimal fractions with an optional exponent, and of the words for infinity and for no
number. The result is the nearest double precision number.
-/

namespace Flipbook.Binary64

/-- The nearest number to `digits * 10 ^ exponent`, where `digits` has `count` digits. Exponents
far outside the range are decided without computing the power. -/
def ofDecimal (negative : Bool) (digits count : Nat) (exponent : Int) : Binary64 :=
  if digits = 0 then finite negative 0 0
  else if exponent > 400 then infinite negative
  else if count + exponent < -400 then finite negative 0 0
  else if exponent < 0 then round negative digits (Nat.pow 10 (-exponent).toNat)
  else round negative (digits * Nat.pow 10 exponent.toNat) 1

def readExponent? : List Char → Option Int
  | [] => some 0
  | mark :: rest =>
    if mark = 'e' ∨ mark = 'E' then
      let (negative, digits) := Text.splitSign rest
      if digits.isEmpty || !digits.all Text.isAsciiDigit then none
      else
        let value : Int := Text.digitsValue digits
        some (if negative then -value else value)
    else none

def readDecimal? (negative : Bool) (text : List Char) : Option Binary64 :=
  let whole := text.takeWhile Text.isAsciiDigit
  let afterWhole := text.dropWhile Text.isAsciiDigit
  let (fraction, tail) :=
    match afterWhole with
    | '.' :: rest => (rest.takeWhile Text.isAsciiDigit, rest.dropWhile Text.isAsciiDigit)
    | _ => ([], afterWhole)
  if whole.isEmpty && fraction.isEmpty then none
  else
    let digits := whole ++ fraction
    (readExponent? tail).map fun exponent =>
      ofDecimal negative (Text.digitsValue digits) digits.length (exponent - fraction.length)

def readUnsigned? (negative : Bool) (text : List Char) : Option Binary64 :=
  let word := String.ofList (text.map Char.toLower)
  if word = "inf" ∨ word = "infinity" then some (infinite negative)
  else if word = "nan" then some nan
  else readDecimal? negative text

def read? (text : String) : Option Binary64 := do
  let joined ← Text.joinDigits? ' ' (Text.trimBlanks (Text.normalizeDigits text.toList))
  let (negative, unsigned) := Text.splitSign joined
  readUnsigned? negative unsigned

end Flipbook.Binary64
