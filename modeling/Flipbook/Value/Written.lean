import Flipbook.Fault
import Flipbook.Limits
import Flipbook.Text.Numeral

/-!
Values as texts inside names and messages. A whole number with more digits than any numeral may
have is not written, and neither is a value that is nested too deep.
-/

namespace Flipbook.Value

mutual

/-- Fails for what keeps a value from being written, with `room` for so many levels more. -/
def checkWritable : (room : Nat) → Value → Except Fault Unit
  | _, int value => if Text.isWritable value then .ok () else .error .unwritable
  | room, list items => checkItems room items
  | room, map entries => checkEntries room entries
  | _, _ => .ok ()

def checkItems : (room : Nat) → List Value → Except Fault Unit
  | _, [] => .ok ()
  | 0, _ :: _ => .error .nestedTooDeep
  | room + 1, item :: rest => do
    checkWritable room item
    checkItems (room + 1) rest

def checkEntries : (room : Nat) → List (String × Value) → Except Fault Unit
  | _, [] => .ok ()
  | 0, _ :: _ => .error .nestedTooDeep
  | room + 1, (_, value) :: rest => do
    checkWritable room value
    checkEntries (room + 1) rest

end

variable [Limits]

def written (value : Value) : Except Fault String := do
  value.checkWritable Limits.maxDepth
  pure value.toText

end Flipbook.Value
