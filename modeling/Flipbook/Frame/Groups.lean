import Flipbook.Frame
import Flipbook.Frame.Name

/-!
Groups of frames with one key, in the order of their first members. The members of a group are
sorted by name or by number.
-/

namespace Flipbook

structure Placed where
  position : Nat
  frame : Frame
deriving DecidableEq

abbrev Groups := List (String × List Placed)

namespace Groups

def keys (groups : Groups) : List String := Keyed.keys groups

def find? (groups : Groups) (key : String) : Option (List Placed) := Keyed.lookup? key groups

def insert (groups : Groups) (key : String) (placed : Placed) : Groups :=
  match groups with
  | [] => [(key, [placed])]
  | (other, members) :: rest =>
    if other = key then (other, members ++ [placed]) :: rest
    else (other, members) :: insert rest key placed

def replace (groups : Groups) (key : String) (members : List Placed) : Groups :=
  Keyed.set groups key members

def gather (groups : Groups) : List Placed → Except Fault Groups
  | [] => .ok groups
  | placed :: rest => do
    match ← FrameName.number? placed.frame.name with
    | none => gather groups rest
    | some _ => gather (groups.insert (FrameName.key placed.frame.name) placed) rest

inductive Order
  | byName
  | byNumber
deriving DecidableEq

def memberNumber (placed : Placed) : Nat :=
  Text.digitsValue (FrameName.trailingDigits placed.frame.name)

/-- Whether one member may stand before another. Names compare by code points, and they decide
between members of one number. -/
def Order.precedes (order : Order) (left right : Placed) : Bool :=
  match order with
  | .byName => left.frame.name ≤ right.frame.name
  | .byNumber =>
    memberNumber left < memberNumber right ||
      (memberNumber left = memberNumber right && left.frame.name ≤ right.frame.name)

def placeAll (frames : List Frame) : List Placed :=
  frames.zipIdx.map fun (frame, position) => { position, frame }

def ofFrames (frames : List Frame) (order : Order) : Except Fault Groups := do
  let groups ← gather [] (placeAll frames)
  pure (groups.map fun (key, members) => (key, members.mergeSort order.precedes))

end Groups

end Flipbook
