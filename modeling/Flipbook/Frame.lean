import Flipbook.Keyed
import Flipbook.Value.Integer
import Flipbook.Value.Written

/-!
Named rectangles of an atlas image, and how metadata describes them.
-/

namespace Flipbook

structure Frame where
  name : String
  source : String := ""
  width : Int := 0
  height : Int := 0
  top : Int := 0
  left : Int := 0
deriving DecidableEq

namespace Frame

def measure (entries : List (String × Value)) (key : String) : Except Fault Int :=
  match Keyed.lookup? key entries with
  | some value => value.toInteger
  | none => .ok 0

variable [Limits]

def sourceText (entries : List (String × Value)) : Except Fault String :=
  match Keyed.lookup? "source" entries, Keyed.lookup? "src" entries with
  | some value, _ | none, some value => value.written
  | none, none => .ok ""

def ofValue : Value → Except Fault Frame
  | .map entries => do
    let some name := Keyed.lookup? "name" entries | .error (.missingKey "name")
    let name ← name.written
    let source ← sourceText entries
    let width ← measure entries "width"
    let height ← measure entries "height"
    let top ← measure entries "top"
    let left ← measure entries "left"
    pure { name, source, width, height, top, left }
  | value => .error (.noNamedFields value.kind)

def toValue (frame : Frame) : Value :=
  .map [("name", .text frame.name), ("source", .text frame.source), ("width", .int frame.width),
    ("height", .int frame.height), ("top", .int frame.top), ("left", .int frame.left)]

def box (frame : Frame) : Int × Int × Int × Int :=
  (frame.left, frame.top, frame.left + frame.width, frame.top + frame.height)

end Frame

end Flipbook
