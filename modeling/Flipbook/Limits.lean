/-!
Limits of the machine that the program runs on. Each list and each value is held against them by
itself, whatever else is in the memory. What is shorter or less nested than something with room has
room too.
-/

namespace Flipbook

def maxLength : Nat := 0x7fffffffffffffff

class Limits where
  /-- The most items of a list, and the most characters of a text. -/
  maxItems : Nat
  /-- The deepest nesting of a value that is written. -/
  maxDepth : Nat
  maxItems_pos : 0 < maxItems
  maxItems_le : maxItems ≤ maxLength

/-- A machine as it is commonly found. All that holds of runs in general holds on any other. -/
instance Limits.usual : Limits where
  maxItems := 0x100000000
  maxDepth := 990
  maxItems_pos := by decide
  maxItems_le := by decide

end Flipbook
