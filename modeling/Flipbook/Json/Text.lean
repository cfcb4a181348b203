import Flipbook.Text.Hexadecimal

/-!
Texts inside a JSON document: characters other than quotes, backslashes and controls stand for
themselves, and a backslash begins an escape.
-/

namespace Flipbook.Json

def readUnit? : List Char → Option (Nat × List Char)
  | a :: b :: c :: d :: rest => do
    let first ← Text.hexValue? a
    let second ← Text.hexValue? b
    let third ← Text.hexValue? c
    let fourth ← Text.hexValue? d
    pure (((first * 16 + second) * 16 + third) * 16 + fourth, rest)
  | _ => none

def isHighSurrogate (code : Nat) : Bool := 0xd800 ≤ code && code < 0xdc00

def isLowSurrogate (code : Nat) : Bool := 0xdc00 ≤ code && code < 0xe000

def readCodePoint? (text : List Char) : Option (Char × List Char) := do
  let (first, rest) ← readUnit? text
  if isHighSurrogate first then
    match rest with
    | '\\' :: 'u' :: more => do
      let (second, rest) ← readUnit? more
      if isLowSurrogate second then
        pure (Char.ofNat (0x10000 + (first - 0xd800) * 0x400 + (second - 0xdc00)), rest)
      else none
    | _ => none
  else if isLowSurrogate first then none
  else pure (Char.ofNat first, rest)

def simpleEscape? : Char → Option Char
  | '"' => some '"'
  | '\\' => some '\\'
  | '/' => some '/'
  | 'b' => some '\x08'
  | 'f' => some '\x0c'
  | 'n' => some '\n'
  | 'r' => some '\r'
  | 't' => some '\t'
  | _ => none

/-- The rest of a text after its opening quote, and what follows the closing quote. The characters
read so far stand in `read`, the latest first. -/
def readText? : (fuel : Nat) → (read : List Char) → List Char → Option (String × List Char)
  | 0, _, _ => none
  | _ + 1, _, [] => none
  | _ + 1, read, '"' :: rest => some (String.ofList read.reverse, rest)
  | fuel + 1, read, '\\' :: 'u' :: rest =>
    match readCodePoint? rest with
    | some (c, rest) => readText? fuel (c :: read) rest
    | none => none
  | fuel + 1, read, '\\' :: letter :: rest =>
    match simpleEscape? letter with
    | some c => readText? fuel (c :: read) rest
    | none => none
  | fuel + 1, read, c :: rest =>
    if c = '\\' ∨ c.toNat < 0x20 then none else readText? fuel (c :: read) rest

end Flipbook.Json
