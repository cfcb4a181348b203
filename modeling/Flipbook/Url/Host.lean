import Flipbook.Fault
import Flipbook.Text.Digit
import Flipbook.Text.Hexadecimal
import Flipbook.Text.Punycode
import Flipbook.Text.Quoted
import Flipbook.Text.Split

/-!
Hosts that addresses name: which of them an address may hold, which can be looked up, and which
mean this machine.
-/

namespace Flipbook.Url.Host

/-- Characters outside ASCII that are equivalent to texts with a question mark, a slash, a colon,
a number sign or an at sign. -/
def disguisedDelimiters : List Char :=
  ['\u2047', '\u2048', '\u2049', '\u2100', '\u2101', '\u2105', '\u2106', '\u2a74', '\ufe13',
    '\ufe16', '\ufe55', '\ufe56', '\ufe5f', '\ufe6b', '\uff03', '\uff0f', '\uff1a', '\uff1f',
    '\uff20']

def check (host : List Char) : Except Fault Unit :=
  if host.contains '[' != host.contains ']' then .error .malformedUrl
  else if host.any (disguisedDelimiters.contains ·) then
    .error (.disguisedDelimiter (String.ofList host))
  else .ok ()

/-- A host and its port, which digits after the last colon name. A colon without digits counts
for nothing. -/
def splitPort (host : List Char) : List Char × List Char :=
  let isDigit := fun c => (Text.asciiDigit? c).isSome
  match host.reverse.dropWhile isDigit with
  | ':' :: before => (before.reverse, (host.reverse.takeWhile isDigit).reverse)
  | _ => (host, [])

def isAscii (text : List Char) : Bool := text.all (·.toNat < 128)

def isSeparator (c : Char) : Bool := c ∈ ['.', '\u3002', '\uff0e', '\uff61']

def isIgnored (c : Char) : Bool :=
  let code := c.toNat
  c ∈ ['\u00ad', '\u034f', '\u1806', '\u2060', '\ufeff'] || (0x180b ≤ code && code ≤ 0x180d) ||
    (0x200b ≤ code && code ≤ 0x200d) || (0xfe00 ≤ code && code ≤ 0xfe0f)

def forbiddenRanges : List (Nat × Nat) :=
  [(0x80, 0x9f), (0x6dd, 0x6dd), (0x70f, 0x70f), (0x1680, 0x1680), (0x180e, 0x180e),
    (0x200e, 0x200f), (0x2028, 0x202e), (0x2061, 0x2063), (0x206a, 0x206f), (0x2ff0, 0x2ffb),
    (0xe000, 0xf8ff), (0xfdd0, 0xfdef), (0xfff9, 0xffff), (0x1d173, 0x1d17a), (0xe0001, 0xe0001),
    (0xe0020, 0xe007f), (0xf0000, 0x10ffff)]

def isForbidden (c : Char) : Bool :=
  let code := c.toNat
  0xfffe ≤ code % 0x10000 || forbiddenRanges.any fun (first, last) => first ≤ code && code ≤ last

def maxLabelLength : Nat := 63

def asciiFormMark : List Char := ['x', 'n', '-', '-']

def hasWrongLength (label : List Char) : Bool := label.isEmpty || maxLabelLength < label.length

def labelDefect? (label : List Char) : Option String :=
  let shown := label.filter (!isIgnored ·)
  if isAscii shown then
    if hasWrongLength shown then some "label empty or too long" else none
  else
    match shown.find? isForbidden with
    | some c => some ("Invalid character " ++ Text.quoted (String.singleton c))
    | none =>
      if asciiFormMark.isPrefixOf (shown.map Char.toLower) then
        some "Label starts with ACE prefix"
      else if hasWrongLength (asciiFormMark ++ Text.Punycode.encode shown) then
        some "label empty or too long"
      else none

def asciiDefect? (host : List Char) : Option String :=
  let labels := Text.splitAll '.' host
  if labels.dropLast.any hasWrongLength then some "label empty or too long"
  else if labels.getLast?.any (maxLabelLength < ·.length) then some "label too long"
  else none

def plain (host : List Char) : List Char :=
  (host.filter (!isIgnored ·)).map fun c => if isSeparator c then '.' else c

def defect? (host : List Char) : Option String :=
  if isAscii host then asciiDefect? host
  else
    let labels := Text.splitAll '.' (host.map fun c => if isSeparator c then '.' else c)
    let named := if labels.getLast? = some [] then labels.dropLast else labels
    named.findSome? labelDefect?

def checkLookup (host : List Char) : Except Fault Unit :=
  match defect? host with
  | some reason => .error (.malformedHost reason)
  | none => if '\x00' ∈ host then .error .nulInHost else .ok ()

def readDigits? (base : Nat) (digits : List Char) : Option Nat :=
  if digits.isEmpty then none
  else digits.foldlM (fun value c => do
    let digit ← Text.hexValue? c
    if digit < base then some (value * base + digit) else none) 0

def readPart? : List Char → Option Nat
  | '0' :: 'x' :: digits => readDigits? 16 digits
  | '0' :: digits => readDigits? 8 ('0' :: digits)
  | digits => readDigits? 10 digits

/-- Whether a name is the numeric address 127.0.0.1. Its last part may stand for several. -/
def isLoopback (name : List Char) : Bool :=
  match (Text.splitAll '.' name).mapM readPart? with
  | some [127, 0, 0, 1] | some [127, 0, 1] | some [127, 1] | some [2130706433] => true
  | _ => false

def isLocal (host : List Char) : Bool :=
  let name := (plain host).map Char.toLower
  name = "localhost".toList || isLoopback name

end Flipbook.Url.Host
