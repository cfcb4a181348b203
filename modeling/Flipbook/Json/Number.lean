import Flipbook.Binary64.Reading
import Flipbook.Value

/-!
Numbers inside a JSON document. A whole number of 64 bits, signed or not, stays exact, and every
other number becomes the nearest double precision number, which has to be finite.
-/

namespace Flipbook.Json

def isNumberPart (c : Char) : Bool :=
  Text.isAsciiDigit c || c == '-' || c == '+' || c == '.' || c == 'e' || c == 'E'

def isWholePart (digits : List Char) : Bool :=
  match digits with
  | [] => false
  | ['0'] => true
  | first :: _ => first != '0'

def isExact (value : Int) : Bool := -0x8000000000000000 ≤ value && value ≤ 0xffffffffffffffff

def finite? : Binary64 → Option Value
  | .finite negative significand shift => some (.float (.finite negative significand shift))
  | _ => none

def readUnsigned? (negative : Bool) (text : List Char) : Option Value :=
  let whole := text.takeWhile Text.isAsciiDigit
  let tail := text.dropWhile Text.isAsciiDigit
  if !isWholePart whole then none
  else
    match tail with
    | [] =>
      let magnitude := Text.digitsValue whole
      let value : Int := if negative then -(magnitude : Int) else magnitude
      if isExact value then some (.int value)
      else finite? (Binary64.ofDecimal negative magnitude whole.length 0)
    | '.' :: rest =>
      if (rest.takeWhile Text.isAsciiDigit).isEmpty then none
      else (Binary64.readDecimal? negative text).bind finite?
    | _ => (Binary64.readDecimal? negative text).bind finite?

def readNumber? : List Char → Option Value
  | '-' :: rest => readUnsigned? true rest
  | text => readUnsigned? false text

end Flipbook.Json
