import Flipbook.Text.Blank
import Flipbook.Text.Digit

/-!
Whole numbers written in decimal digits of any script. Blanks may surround the numeral, one sign
may lead it, and single underscores may stand between its digits.
-/

namespace Flipbook.Text

def maxDigits : Nat := 4300

def isWritable (value : Int) : Bool := value.natAbs < Nat.pow 10 maxDigits

inductive Numeral
  | value (value : Int)
  | malformed
  | tooLong (digits : Nat)
deriving DecidableEq

def normalizeDigits (text : List Char) : List Char :=
  text.map fun c =>
    match decimalDigit? c with
    | some value => Char.ofNat (48 + value)
    | none => c

def isAsciiDigit (c : Char) : Bool := (asciiDigit? c).isSome

/-- Removes single underscores between digits, and refuses any other underscore. `previous` is
the character before the text. -/
def joinDigits? (previous : Char) : List Char → Option (List Char)
  | [] => some []
  | '_' :: rest =>
    match rest with
    | next :: _ =>
      if isAsciiDigit previous && isAsciiDigit next then joinDigits? '_' rest else none
    | [] => none
  | c :: rest => (joinDigits? c rest).map (c :: ·)

def digitsValue (digits : List Char) : Nat :=
  digits.foldl (fun value c => value * 10 + (asciiDigit? c).getD 0) 0

def splitSign : List Char → Bool × List Char
  | '-' :: rest => (true, rest)
  | '+' :: rest => (false, rest)
  | text => (false, text)

def readUnpadded (text : List Char) : Numeral :=
  let (negative, unsigned) := splitSign text
  let isPart := fun c => isAsciiDigit c || c == '_'
  match joinDigits? ' ' (unsigned.takeWhile isPart) with
  | none | some [] => .malformed
  | some digits =>
    if maxDigits < digits.length then .tooLong digits.length
    else if (unsigned.dropWhile isPart).isEmpty then
      .value (if negative then -(digitsValue digits : Int) else digitsValue digits)
    else .malformed

def readNumeral (text : String) : Numeral :=
  readUnpadded (trimBlanks (normalizeDigits text.toList))

end Flipbook.Text
