import Flipbook.Text.Hexadecimal
import Flipbook.Text.Printable

/-!
Quoted form of texts and byte strings. Single quotes enclose the text unless it holds a single
quote and no double one.
-/

namespace Flipbook.Text

def codePointEscape (code : Nat) : List Char :=
  if code < 0x100 then '\\' :: 'x' :: hexadecimal 2 code
  else if code < 0x10000 then '\\' :: 'u' :: hexadecimal 4 code
  else '\\' :: 'U' :: hexadecimal 8 code

def commonEscape? (quote c : Char) : Option (List Char) :=
  if c = quote ∨ c = '\\' then some ['\\', c]
  else if c = '\t' then some ['\\', 't']
  else if c = '\n' then some ['\\', 'n']
  else if c = '\r' then some ['\\', 'r']
  else none

def escapeChar (quote c : Char) : List Char :=
  match commonEscape? quote c with
  | some escape => escape
  | none => if isPrintable c then [c] else codePointEscape c.toNat

def escapeOctet (quote : Char) (octet : UInt8) : List Char :=
  let c := Char.ofNat octet.toNat
  match commonEscape? quote c with
  | some escape => escape
  | none => if 0x20 ≤ octet ∧ octet < 0x7f then [c] else codePointEscape octet.toNat

def chooseQuote (characters : List Char) : Char :=
  if '\'' ∈ characters ∧ '"' ∉ characters then '"' else '\''

def quotedChars (characters : List Char) : List Char :=
  let quote := chooseQuote characters
  quote :: characters.flatMap (escapeChar quote) ++ [quote]

def quoted (text : String) : String :=
  String.ofList (quotedChars text.toList)

def quotedOctets (octets : List UInt8) : String :=
  let quote := chooseQuote (octets.map fun octet => Char.ofNat octet.toNat)
  String.ofList ('b' :: quote :: octets.flatMap (escapeOctet quote) ++ [quote])

end Flipbook.Text
