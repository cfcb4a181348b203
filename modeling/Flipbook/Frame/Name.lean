import Flipbook.Fault
import Flipbook.Text.Numeral

/-!
Names of frames: a group key followed by the number of the frame in ASCII digits.
-/

namespace Flipbook.FrameName

def trailingDigits (name : String) : List Char :=
  (name.toList.reverse.takeWhile Text.isAsciiDigit).reverse

def key (name : String) : String :=
  String.ofList (name.toList.reverse.dropWhile Text.isAsciiDigit).reverse

def number? (name : String) : Except Fault (Option Nat) :=
  let digits := trailingDigits name
  if digits.isEmpty then .ok none
  else if Text.maxDigits < digits.length then .error (.digitLimit digits.length)
  else .ok (some (Text.digitsValue digits))

end Flipbook.FrameName
