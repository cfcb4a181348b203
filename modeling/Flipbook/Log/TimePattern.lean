import Flipbook.Log.Clock
import Flipbook.Text.Numeral
import Flipbook.Text.Uppercase

/-!
Patterns for the texts of points in time. A field of a pattern is a percent sign with flags, a least
width, a modifier and a letter. What is no field stays as it is written.
-/

namespace Flipbook.Log

/-- How a field is filled up to its width. By default numbers get zeros in front and texts get
spaces. -/
inductive Padding
  | standard
  | spaces
  | zeros
  | none
deriving DecidableEq

structure Field where
  padding : Padding := .standard
  uppercase : Bool := false
  swapsCase : Bool := false
  width : Nat := 0
  modifier : Option Char := none
  letter : Option Char := none
  written : List Char := []

namespace Field

def isFlag (c : Char) : Bool := c ∈ ['_', '-', '0', '^', '#']

def addFlag (field : Field) (flag : Char) : Field :=
  if flag = '_' then { field with padding := .spaces }
  else if flag = '-' then { field with padding := .none }
  else if flag = '0' then { field with padding := .zeros }
  else if flag = '^' then { field with uppercase := true }
  else { field with swapsCase := true }

def read (room : Nat) (text : List Char) : Field :=
  let flags := text.takeWhile isFlag
  let afterFlags := text.dropWhile isFlag
  let digits := afterFlags.takeWhile Text.isAsciiDigit
  let afterWidth := afterFlags.dropWhile Text.isAsciiDigit
  let modifier := afterWidth.take 1 |>.filter fun c => c = 'E' || c = 'O'
  let letter := (afterWidth.drop modifier.length).take 1
  { flags.foldl addFlag {} with
    width := min room (Text.digitsValue digits)
    modifier := modifier.head?
    letter := letter.head?
    written := '%' :: flags ++ digits ++ modifier ++ letter }

def fill (field : Field) (text : List Char) : List Char :=
  List.replicate (field.width - text.length) (if field.padding = .zeros then '0' else ' ') ++ text

def fillText (field : Field) (text : List Char) : List Char :=
  field.fill (if field.uppercase then text.map Text.singleUppercase else text)

def fillName (field : Field) (name : String) : List Char :=
  { field with uppercase := field.uppercase || field.swapsCase }.fillText name.toList

def fillCapitals (field : Field) (word : String) : List Char :=
  if field.swapsCase then field.fill (word.toList.map Char.toLower) else field.fillText word.toList

def signOf (value : Int) : List Char := if value < 0 then ['-'] else []

def fillNumber (field : Field) (places : Nat) (value : Int) : List Char :=
  let digits := Nat.toDigits 10 value.natAbs
  let missing := max places field.width - (signOf value ++ digits).length
  match field.padding with
  | .none => field.fill (signOf value ++ digits)
  | .spaces => List.replicate missing ' ' ++ signOf value ++ digits
  | _ => signOf value ++ List.replicate missing '0' ++ digits

def fillSpaced (field : Field) (places : Nat) (value : Int) : List Char :=
  let spaced := if field.padding = .standard then { field with padding := .spaces } else field
  spaced.fillNumber places value

def acceptsModifier (letter : Char) : Option Char → Bool
  | none => true
  | some 'E' => letter ∉ "%aAbBdDeFgGhHIjklmMSUVwW".toList
  | some _ => letter ∉ "%aAcDFxXY".toList

def verbatim (field : Field) : List Char :=
  let isMonth := field.letter.any fun letter => letter ∈ ['b', 'B', 'h']
  let raised := field.uppercase || (field.swapsCase && isMonth)
  { field with uppercase := raised }.fillText
    (if field.letter = some '%' then ['%'] else field.written)

end Field

namespace TimePattern

def weekdayNames : List String :=
  ["Sunday", "Monday", "Tuesday", "Wednesday", "Thursday", "Friday", "Saturday"]

def monthNames : List String :=
  ["January", "February", "March", "April", "May", "June", "July", "August", "September",
    "October", "November", "December"]

def nameAt (names : List String) (index : Int) : String := names.getD index.toNat ""

def shortName (name : String) : String := String.ofList (name.toList.take 3)

def dayHalf (moment : Moment) : String := if moment.hour < 12 then "AM" else "PM"

def weekYear (moment : Moment) : Int := (Day.middleOfWeek moment.days).year.bmod 0x100000000

def partText? (moment : Moment) (field : Field) (letter : Char) : Option (List Char) :=
  let day := moment.day
  match letter with
  | 'a' => some (field.fillName (shortName (nameAt weekdayNames day.weekday)))
  | 'A' => some (field.fillName (nameAt weekdayNames day.weekday))
  | 'b' | 'h' => some (field.fillName (shortName (nameAt monthNames (day.month - 1))))
  | 'B' => some (field.fillName (nameAt monthNames (day.month - 1)))
  | 'C' => some (field.fillNumber 1 (day.year / 100))
  | 'd' => some (field.fillNumber 2 day.day)
  | 'e' => some (field.fillSpaced 2 day.day)
  | 'g' => some (field.fillNumber 2 (weekYear moment % 100))
  | 'G' => some (field.fillNumber 1 (weekYear moment))
  | 'H' => some (field.fillNumber 2 moment.hour)
  | 'I' => some (field.fillNumber 2 moment.clockHour)
  | 'j' => some (field.fillNumber 3 (day.dayOfYear + 1))
  | 'k' => some (field.fillSpaced 2 moment.hour)
  | 'l' => some (field.fillSpaced 2 moment.clockHour)
  | 'm' => some (field.fillNumber 2 day.month)
  | 'M' => some (field.fillNumber 2 moment.minute)
  | 'n' => some (field.fill ['\n'])
  | 'p' => some (field.fillCapitals (dayHalf moment))
  | 'P' => some (field.fill ((dayHalf moment).toList.map Char.toLower))
  | 's' => some (field.fill (toString moment.seconds).toList)
  | 'S' => some (field.fillNumber 2 moment.second)
  | 't' => some (field.fill ['\t'])
  | 'u' => some (field.fillNumber 1 ((day.weekday + 6) % 7 + 1))
  | 'U' => some (field.fillNumber 2 ((day.dayOfYear - day.weekday + 7) / 7))
  | 'V' => some (field.fillNumber 2 ((Day.middleOfWeek moment.days).dayOfYear / 7 + 1))
  | 'w' => some (field.fillNumber 1 day.weekday)
  | 'W' => some (field.fillNumber 2 ((day.dayOfYear - (day.weekday + 6) % 7 + 7) / 7))
  | 'y' => some (field.fillNumber 2 (day.year % 100))
  | 'Y' => some (field.fillNumber 1 day.year)
  | 'z' => some (field.fill ['+'] ++ field.fillNumber 4 0)
  | 'Z' => some (field.fillCapitals "UTC")
  | '%' => some (field.fill ['%'])
  | _ => none

def abbreviated? : Char → Option String
  | 'c' => some "%a %b %e %H:%M:%S %Y"
  | 'D' | 'x' => some "%m/%d/%y"
  | 'F' => some "%Y-%m-%d"
  | 'r' => some "%I:%M:%S %p"
  | 'R' => some "%H:%M"
  | 'T' | 'X' => some "%H:%M:%S"
  | _ => none

def expand (room : Nat) (fieldText : Field → List Char) : (skip : Nat) → List Char → List Char
  | _, [] => []
  | skip + 1, _ :: rest => expand room fieldText skip rest
  | 0, '%' :: rest =>
    let field := Field.read room rest
    fieldText field ++ expand room fieldText (field.written.length - 1) rest
  | 0, c :: rest => c :: expand room fieldText 0 rest

def plainText (moment : Moment) (field : Field) : List Char :=
  ((field.letter.filter (Field.acceptsModifier · field.modifier)).bind
    (partText? moment field)).getD field.verbatim

def fieldText (moment : Moment) (room : Nat) (field : Field) : List Char :=
  match (field.letter.filter (Field.acceptsModifier · field.modifier)).bind abbreviated? with
  | some pattern => field.fillText (expand room (plainText moment) 0 pattern.toList)
  | none => plainText moment field

def doubleUpTo (least : Nat) : (fuel size : Nat) → Nat
  | 0, size => size
  | fuel + 1, size => if least ≤ size then size else doubleUpTo least fuel (2 * size)

/-- The room for the text of a pattern: 256 characters for each character of the pattern, rounded
up to 1024 or a double of it. -/
def roomFor (length : Nat) : Nat := doubleUpTo (256 * length) length 1024

def render (pattern : String) (moment : Moment) : String :=
  let room := roomFor pattern.length
  let text := expand room (fieldText moment room) 0 pattern.toList
  if text.length < room then String.ofList text else ""

end TimePattern

def zeroPadded (width : Nat) (value : Int) : String :=
  String.ofList (Field.fillNumber {} width value)

namespace Moment

def renderBy (moment : Moment) (pattern : String) : Except Fault String := do
  moment.check
  if '\x00' ∈ pattern.toList then throw .nulInPattern
  pure (TimePattern.render pattern moment)

def render (moment : Moment) (pattern : Option String) : Except Fault String :=
  match pattern with
  | none | some "" => do
    let seconds ← moment.renderBy "%Y-%m-%d %H:%M:%S"
    pure (seconds ++ "," ++ zeroPadded 3 moment.milliseconds)
  | some pattern => moment.renderBy pattern

end Moment

end Flipbook.Log
