import Flipbook.Value

/-!
Comparison of values that are numbers. Truth values count as zero and one.
-/

namespace Flipbook

inductive Number
  | whole (value : Int)
  | real (value : Binary64)

def Value.number? : Value → Option Number
  | .bool value => some (.whole (if value then 1 else 0))
  | .int value => some (.whole value)
  | .float value => some (.real value)
  | _ => .none

namespace Number

/-- Order of two numbers. A value that is no number compares with nothing, itself included. -/
def compare : Number → Number → Option Ordering
  | whole left, whole right => some (Ord.compare left right)
  | whole left, real right => (right.compareInt left).map Ordering.swap
  | real left, whole right => left.compareInt right
  | real left, real right => left.compare right

def isBelow (left right : Number) : Bool := left.compare right = some .lt

def isAtLeast (left right : Number) : Bool :=
  left.compare right = some .gt || left.compare right = some .eq

def isAbove (left right : Number) : Bool := left.compare right = some .gt

def isEqual (left right : Number) : Bool := left.compare right = some .eq

end Number

end Flipbook
