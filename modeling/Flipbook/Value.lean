import Flipbook.Binary64.Shortest
import Flipbook.Path
import Flipbook.Text.Quoted

/-!
Values of decoded metadata and of stored settings, whose kind is known only when they are read.
-/

namespace Flipbook

inductive Value
  | none
  | bool (value : Bool)
  | int (value : Int)
  | float (value : Binary64)
  | text (value : String)
  | octets (value : List UInt8)
  | list (items : List Value)
  /-- Entries in insertion order, each key once. -/
  | map (entries : List (String × Value))
  | path (value : Path)
  | image (width height : Nat)

inductive Value.Kind
  | none
  | bool
  | int
  | float
  | text
  | octets
  | list
  | map
  | path
  | image
deriving DecidableEq

def Value.Kind.name : Value.Kind → String
  | .none => "NoneType"
  | .bool => "bool"
  | .int => "int"
  | .float => "float"
  | .text => "str"
  | .octets => "bytes"
  | .list => "list"
  | .map => "dict"
  | .path => "PosixPath"
  | .image => "Image"

namespace Value

def kind : Value → Kind
  | none => .none
  | bool _ => .bool
  | int _ => .int
  | float _ => .float
  | text _ => .text
  | octets _ => .octets
  | list _ => .list
  | map _ => .map
  | path _ => .path
  | image .. => .image

def boolText (value : Bool) : String := if value then "True" else "False"

mutual

def quoted : Value → String
  | none => "None"
  | bool value => boolText value
  | int value => toString value
  | float value => value.text
  | text value => Text.quoted value
  | octets value => Text.quotedOctets value
  | list items => "[" ++ String.intercalate ", " (quotedItems items) ++ "]"
  | map entries => "\x7b" ++ String.intercalate ", " (quotedEntries entries) ++ "\x7d"
  | path value => "PosixPath(" ++ Text.quoted value.text ++ ")"
  | image width height => "<Image size=" ++ toString width ++ "x" ++ toString height ++ ">"

def quotedItems : List Value → List String
  | [] => []
  | item :: rest => quoted item :: quotedItems rest

def quotedEntries : List (String × Value) → List String
  | [] => []
  | (key, value) :: rest => (Text.quoted key ++ ": " ++ quoted value) :: quotedEntries rest

end

/-- The text of a value. Texts and paths stand for themselves, all else is written as inside a
list. -/
def toText : Value → String
  | text value => value
  | path value => value.text
  | value => value.quoted

def isTruthy : Value → Bool
  | none => false
  | bool value => value
  | int value => value != 0
  | float value => !value.isZero
  | text value => value != ""
  | octets value => !value.isEmpty
  | list items => !items.isEmpty
  | map entries => !entries.isEmpty
  | path _ | image .. => true

end Value

end Flipbook
