import Flipbook.Fault
import Flipbook.Limits

/-!
Limits on the length of lists and texts. A length has to fit into a machine word, and there has to
be room for the items.
-/

namespace Flipbook.Capacity

variable [Limits]

/-- Fails where there is no room for `length` items, with `overlong` if no word holds the length.
There is always room for a negative number of items, as long as a word holds it. -/
def check (overlong : Fault) (length : Int) : Except Fault Unit :=
  if length < -maxLength - 1 || maxLength < length then .error overlong
  else if Limits.maxItems < length then .error .outOfMemory
  else .ok ()

end Flipbook.Capacity
