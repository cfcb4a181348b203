import Flipbook.Page
import Flipbook.Value.Number

/-!
Queries by values of any kind. A text selects a group, a whole number a frame, and a pair of
numbers a range. Truth values are the whole numbers zero and one under names of their own.
-/

namespace Flipbook.Page

def liesOutside (page : Page) (value : Value) : Except Fault Bool :=
  match value.number? with
  | some number => .ok (number.isBelow (.whole 0) || number.isAtLeast (.whole page.count))
  | none => .error (.incomparable "<" value.kind .int)

/-- The frame at a position within the page. A fraction is no position, whole or not. -/
def select (page : Page) (position : Value) : Except Fault (List Placed) :=
  match position with
  | .int index => .ok (page.framesAt [index])
  | .bool value => .ok (page.framesAt [if value then 1 else 0])
  | value => .error (.notAPosition value.kind)

variable [Limits]

def byIndexValue (page : Page) (index : Value) : Report (List Placed) := do
  if ← .ofExcept (page.liesOutside index) then
    Report.diagnose (indexOutOfBounds (← .ofExcept index.written))
    pure []
  else .ofExcept (page.select index)

def stepBound : Value → Except Fault Int
  | .int value => .ok value
  | .bool value => .ok (if value then 1 else 0)
  | value => .error (.notAStep value.kind)

def isSameNumber (left right : Value) : Bool :=
  match left.number?, right.number? with
  | some left, some right => left.isEqual right
  | _, _ => false

def selectRange (page : Page) (start stop : Value) : Except Fault (List Placed) := do
  if stop.number?.isNone then throw (.incomparable ">" stop.kind start.kind)
  let first ← stepBound start
  let last ← stepBound stop
  Capacity.check .overlongRange (last - first).natAbs
  pure (page.framesAt (stepsToward first last))

def byIndicesValue (page : Page) (start stop : Value) : Report (List Placed) := do
  let startOutside ← .ofExcept (page.liesOutside start)
  let someOutside ← if startOutside then pure true else .ofExcept (page.liesOutside stop)
  if someOutside then
    Report.diagnose
      (rangeOutOfBounds (← .ofExcept start.written) (← .ofExcept stop.written))
  if isSameNumber start stop then
    if startOutside then pure [] else .ofExcept (page.select start)
  else .ofExcept (page.selectRange start stop)

def unpackPair (value : Value) : Except Fault (Value × Value) :=
  let parts : Option (List Value) :=
    match value with
    | .list items => some items
    | .octets octets => some (octets.map fun octet => .int octet.toNat)
    | .map entries => some (entries.map fun entry => .text entry.1)
    | _ => none
  match parts with
  | some [first, second] => .ok (first, second)
  | some (_ :: _ :: _ :: _) => .error .tooManyParts
  | some few => .error (.tooFewParts few.length)
  | none => .error (.notUnpackable value.kind)

def byNameValue (page : Page) (name : Value) : Report (List Placed) :=
  match name with
  | .text name => page.byName name
  | .list _ | .map _ | .image .. => .fail (.unhashable name.kind)
  | name => do
    Report.diagnose (unknownName (← .ofExcept name.written))
    pure []

def bySelector (page : Page) (selector : Value) : Report (List Placed) :=
  match selector with
  | .text name => page.byName name
  | .int _ | .bool _ => page.byIndexValue selector
  | value => do
    let (start, stop) ← .ofExcept (unpackPair value)
    page.byIndicesValue start stop

end Flipbook.Page
