import Flipbook.Frame

/-!
Atlas metadata: a map whose `frames` entry lists the records of all frames.
-/

namespace Flipbook.Metadata

def isHashable : Value → Bool
  | .list _ | .map _ | .image .. => false
  | _ => true

/-- The key and value of one element of a list that stands for a map. Only a key that is a text
can be looked up later. -/
def entryOf (index : Nat) : Value → Except Fault (Option (String × Value))
  | .list [key, value] =>
    if isHashable key then
      match key with
      | .text name => .ok (some (name, value))
      | _ => .ok none
    else .error (.unhashable key.kind)
  | .list items => .error (.entryLength index items.length)
  | .map [(first, _), (second, _)] => .ok (some (first, .text second))
  | .map entries => .error (.entryLength index entries.length)
  | .text characters =>
    match characters.toList with
    | [first, second] => .ok (some (String.singleton first, .text (String.singleton second)))
    | all => .error (.entryLength index all.length)
  | .octets octets =>
    if octets.length = 2 then .ok none else .error (.entryLength index octets.length)
  | _ => .error (.notAnEntry index)

def entriesOfList (items : List Value) (index : Nat) (entries : List (String × Value)) :
    Except Fault (List (String × Value)) :=
  match items with
  | [] => .ok entries
  | item :: rest => do
    match ← entryOf index item with
    | some (key, value) => entriesOfList rest (index + 1) (Keyed.set entries key value)
    | none => entriesOfList rest (index + 1) entries

def entriesOf : Value → Except Fault (List (String × Value))
  | .map entries => .ok entries
  | .list items => entriesOfList items 0 []
  | .text characters => if characters = "" then .ok [] else .error (.entryLength 0 1)
  | .octets octets => if octets.isEmpty then .ok [] else .error (.notAnEntry 0)
  | value => .error (.notIterable value.kind)

variable [Limits]

def framesOfEntries (entries : List (String × Value)) : Except Fault (List Frame) :=
  match Keyed.lookup? "frames" entries with
  | some (.list records) => records.mapM Frame.ofValue
  | _ => .error .noFrameList

def frames : Value → Except Fault (List Frame)
  | .map entries => framesOfEntries entries
  | value => .error (.noAttribute value.kind "get")

end Flipbook.Metadata
