import Flipbook.Json.Number
import Flipbook.Json.Text
import Flipbook.Keyed

/-!
Strict reading of JSON documents. Lists and maps nest to a limited depth, and of the values that
a map gives to one key the last one counts.
-/

namespace Flipbook.Json

def maxDepth : Nat := 1024

def isSpace (c : Char) : Bool := c == ' ' || c == '\t' || c == '\n' || c == '\r'

def skipSpace (text : List Char) : List Char := text.dropWhile isSpace

def afterWord? : (word text : List Char) → Option (List Char)
  | [], text => some text
  | expected :: word, c :: text => if expected = c then afterWord? word text else none
  | _ :: _, [] => none

def readKey? (size : Nat) (text : List Char) : Option (String × List Char) :=
  match skipSpace text with
  | '"' :: rest => do
    let (key, rest) ← readText? size [] rest
    match skipSpace rest with
    | ':' :: rest => pure (key, rest)
    | _ => none
  | _ => none

mutual

/-- A value and the text after it. `size` exceeds the length of the text, and `depth` counts the
levels that may still open. -/
def readValue? (size : Nat) : (fuel depth : Nat) → List Char → Option (Value × List Char)
  | 0, _, _ => none
  | fuel + 1, depth, text =>
    match skipSpace text with
    | [] => none
    | '"' :: rest => do
      let (value, rest) ← readText? size [] rest
      pure (.text value, rest)
    | '[' :: rest =>
      if depth = 0 then none
      else
        match skipSpace rest with
        | ']' :: rest => some (.list [], rest)
        | rest => readItems? size fuel (depth - 1) [] rest
    | '\x7b' :: rest =>
      if depth = 0 then none
      else
        match skipSpace rest with
        | '\x7d' :: rest => some (.map [], rest)
        | rest => readEntries? size fuel (depth - 1) [] rest
    | 'n' :: rest => (afterWord? ['u', 'l', 'l'] rest).map fun rest => (.none, rest)
    | 't' :: rest => (afterWord? ['r', 'u', 'e'] rest).map fun rest => (.bool true, rest)
    | 'f' :: rest => (afterWord? ['a', 'l', 's', 'e'] rest).map fun rest => (.bool false, rest)
    | text => do
      let value ← readNumber? (text.takeWhile isNumberPart)
      pure (value, text.dropWhile isNumberPart)

def readItems? (size : Nat) : (fuel depth : Nat) → (read : List Value) → List Char →
    Option (Value × List Char)
  | 0, _, _, _ => none
  | fuel + 1, depth, read, text => do
    let (value, rest) ← readValue? size fuel depth text
    match skipSpace rest with
    | ',' :: rest => readItems? size fuel depth (value :: read) rest
    | ']' :: rest => pure (.list (value :: read).reverse, rest)
    | _ => none

def readEntries? (size : Nat) : (fuel depth : Nat) → (read : List (String × Value)) → List Char →
    Option (Value × List Char)
  | 0, _, _, _ => none
  | fuel + 1, depth, read, text => do
    let (key, rest) ← readKey? size text
    let (value, rest) ← readValue? size fuel depth rest
    match skipSpace rest with
    | ',' :: rest => readEntries? size fuel depth (Keyed.set read key value) rest
    | '\x7d' :: rest => pure (.map (Keyed.set read key value), rest)
    | _ => none

end

/-- The value of a document that holds nothing else. Every step that opens a level or goes on to
the next item consumes a character, so twice the length of the text is fuel enough. -/
def read? (text : List Char) : Option Value := do
  let size := text.length + 1
  let (value, rest) ← readValue? size (2 * size) maxDepth text
  if (skipSpace rest).isEmpty then pure value else none

def decode? (octets : List UInt8) : Option Value := do
  let text ← String.fromUTF8? (ByteArray.mk octets.toArray)
  read? text.toList

end Flipbook.Json
