import Flipbook.Proofs.Text.Numeral
import Flipbook.Value.Integer
import Flipbook.Value.Written

/-!
Texts and whole numbers written down, and read again where they are.
-/

namespace Flipbook.Value

theorem toText_int (number : Int) : (int number).toText = toString number := rfl

mutual

theorem fault_of_checkWritable {room : Nat} {fault : Fault} (value : Value)
    (failed : value.checkWritable room = .error fault) :
    fault = .nestedTooDeep ∨ fault = .unwritable := by
  cases value with rw [checkWritable] at failed
  | int number =>
      split at failed
      · cases failed
      · exact .inr (Except.error.inj failed).symm
  | list items => exact fault_of_checkItems items failed
  | map entries => exact fault_of_checkEntries entries failed
  | _ => contradiction

theorem fault_of_checkItems {room : Nat} {fault : Fault} (items : List Value)
    (failed : checkItems room items = .error fault) :
    fault = .nestedTooDeep ∨ fault = .unwritable := by
  match items, room with
  | [], _ => contradiction
  | _ :: _, 0 => exact .inl (Except.error.inj failed).symm
  | item :: rest, room + 1 =>
      cases first : item.checkWritable room with rw [checkItems, first] at failed
      | error other => exact Except.error.inj failed ▸ fault_of_checkWritable item first
      | ok _ => exact fault_of_checkItems rest failed

theorem fault_of_checkEntries {room : Nat} {fault : Fault} (entries : List (String × Value))
    (failed : checkEntries room entries = .error fault) :
    fault = .nestedTooDeep ∨ fault = .unwritable := by
  match entries, room with
  | [], _ => contradiction
  | _ :: _, 0 => exact .inl (Except.error.inj failed).symm
  | (_, value) :: rest, room + 1 =>
      cases first : value.checkWritable room with rw [checkEntries, first] at failed
      | error other => exact Except.error.inj failed ▸ fault_of_checkWritable value first
      | ok _ => exact fault_of_checkEntries rest failed

end

theorem integerOfText_natCast (count : Nat) : integerOfText (toString (count : Int)) =
    if Text.isWritable count then .ok (count : Int)
    else .error (.digitLimit (Nat.toDigits 10 count).length) := by
  unfold integerOfText
  rw [Text.readNumeral_natCast]
  split <;> rfl

variable [Limits]

theorem written_text (content : String) : (text content).written = .ok content := rfl

theorem written_int (number : Int) : (int number).written =
    if Text.isWritable number then .ok (toString number) else .error .unwritable := by
  unfold written checkWritable
  split <;> rfl

theorem written_of_isWritable {number : Int} (writable : Text.isWritable number = true) :
    (int number).written = .ok (toString number) := by
  rw [written_int, if_pos writable]

theorem exists_written_of_not_isTruthy {value : Value} (falsy : value.isTruthy = false) :
    ∃ text, value.written = .ok text := by
  cases value with
  | int number =>
      obtain rfl : number = 0 := by simpa [isTruthy] using falsy
      exact ⟨_, written_of_isWritable ((Text.isWritable_natCast_iff 0).mpr (by decide))⟩
  | list items =>
      obtain rfl : items = [] := by simpa [isTruthy] using falsy
      exact ⟨_, rfl⟩
  | map entries =>
      obtain rfl : entries = [] := by simpa [isTruthy] using falsy
      exact ⟨_, rfl⟩
  | none | bool | float | text | octets => exact ⟨_, rfl⟩
  | path | image => contradiction

theorem fault_of_unwritten {value : Value} {fault : Fault}
    (unwritten : value.written = .error fault) :
    fault = .nestedTooDeep ∨ fault = .unwritable := by
  cases checked : value.checkWritable Limits.maxDepth with rw [written, checked] at unwritten
  | error other => exact Except.error.inj unwritten ▸ fault_of_checkWritable value checked
  | ok _ => contradiction

end Flipbook.Value
