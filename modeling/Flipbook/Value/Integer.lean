import Flipbook.Fault
import Flipbook.Text.Numeral

/-!
Whole numbers from values. Fractions lose their fractional part, and texts are read as numerals.
-/

namespace Flipbook.Value

def maxQuotedLength : Nat := 200

def shortened (quoted : List Char) : String := String.ofList (quoted.take maxQuotedLength)

def integerOfNumeral (numeral : Text.Numeral) (quoted : String) : Except Fault Int :=
  match numeral with
  | .value value => .ok value
  | .tooLong digits => .error (.digitLimit digits)
  | .malformed => .error (.malformedInteger quoted)

def integerOfText (text : String) : Except Fault Int :=
  integerOfNumeral (Text.readNumeral text) (shortened (Text.quotedChars text.toList))

def numeralChar (octet : UInt8) : Char :=
  if octet < 0x80 then Char.ofNat octet.toNat else '?'

def integerOfOctets (octets : List UInt8) : Except Fault Int :=
  integerOfNumeral (Text.readNumeral (String.ofList (octets.map numeralChar)))
    (shortened (Text.quotedOctets (octets.take maxQuotedLength)).toList)

def integerOfFloat : Binary64 → Except Fault Int
  | .nan => .error .nanToInteger
  | .infinite _ => .error .infinityToInteger
  | .finite negative significand shift => .ok (Binary64.truncate negative significand shift)

def toInteger : Value → Except Fault Int
  | bool value => .ok (if value then 1 else 0)
  | int value => .ok value
  | float value => integerOfFloat value
  | text value => integerOfText value
  | octets value => integerOfOctets value
  | value => .error (.notNumeric value.kind)

end Flipbook.Value
