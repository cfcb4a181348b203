import Flipbook.Log.Csv
import Flipbook.Log.Layout
import Flipbook.Proofs.Report
import Flipbook.Proofs.Text.Numeral

/-!
Times as a log file and the console write them. Their patterns are made of numbers, so that no time
has a quote or a letter in it.
-/

namespace Flipbook.Log

namespace Field

def ofLetter (letter : Char) : Field := { letter := some letter, written := ['%', letter] }

def IsLetter (c : Char) : Prop :=
  isFlag c = false ∧ Text.isAsciiDigit c = false ∧ c ≠ 'E' ∧ c ≠ 'O'

instance (c : Char) : Decidable (IsLetter c) :=
  inferInstanceAs (Decidable (isFlag c = false ∧ Text.isAsciiDigit c = false ∧ c ≠ 'E' ∧ c ≠ 'O'))

theorem read_of_isLetter {letter : Char} (alone : IsLetter letter) (room : Nat) (rest : List Char) :
    read room (letter :: rest) = ofLetter letter := by
  obtain ⟨noFlag, noDigit, noEra, noOther⟩ := alone
  simp [read, noFlag, noDigit, noEra, noOther, ofLetter, Text.digitsValue]

theorem mem_fillNumber {field : Field} {places : Nat} {value : Int} {c : Char}
    (member : c ∈ field.fillNumber places value) :
    Text.isAsciiDigit c = true ∨ c = '-' ∨ c = ' ' := by
  have digit : c ∈ Nat.toDigits 10 value.natAbs → Text.isAsciiDigit c = true :=
    Text.isAsciiDigit_of_mem_toDigits
  have sign : c ∈ signOf value → c = '-' := by
    unfold signOf
    split <;> simp
  have zero : c = '0' → Text.isAsciiDigit c = true := fun eq => eq ▸ (by decide)
  unfold fillNumber fill at member
  cases padding : field.padding <;>
  · simp only [padding, reduceCtorEq, if_false, List.mem_append, List.mem_replicate] at member
    tauto

theorem quote_notMem_fillNumber (field : Field) (places : Nat) (value : Int) :
    '"' ∉ field.fillNumber places value := by
  intro member
  exact absurd (mem_fillNumber member) (by decide)

theorem length_fillNumber_two {value : Int} (lower : 0 ≤ value) (upper : value < 100) :
    (fillNumber {} 2 value).length = 2 := by
  have unsigned : signOf value = [] := if_neg (Int.not_lt.mpr lower)
  have short : (Nat.toDigits 10 value.natAbs).length ≤ 2 := by
    rw [Nat.length_toDigits_le_iff (by decide) (by decide)]
    omega
  simp only [fillNumber, unsigned, List.nil_append, List.length_append, List.length_replicate]
  omega

end Field

namespace TimePattern

variable {room : Nat} {text : Field → List Char}

theorem expand_letter {letter : Char} (alone : Field.IsLetter letter) (rest : List Char) :
    expand room text 0 ('%' :: letter :: rest) =
      text (.ofLetter letter) ++ expand room text 0 rest := by
  rw [expand, Field.read_of_isLetter alone]
  rfl

theorem expand_verbatim {c : Char} (plain : c ≠ '%') (rest : List Char) :
    expand room text 0 (c :: rest) = c :: expand room text 0 rest := by
  rw [expand]
  exact fun percent => absurd percent plain

theorem exists_fieldText_eq (moment : Moment) {letter : Char}
    (number : letter ∈ ['Y', 'm', 'd', 'H', 'M', 'S']) :
    ∃ places value, fieldText moment room (.ofLetter letter) =
      (Field.ofLetter letter).fillNumber places value := by
  simp only [List.mem_cons, List.not_mem_nil, or_false] at number
  rcases number with rfl | rfl | rfl | rfl | rfl | rfl
  · exact ⟨1, moment.day.year, rfl⟩
  · exact ⟨2, moment.day.month, rfl⟩
  · exact ⟨2, moment.day.day, rfl⟩
  · exact ⟨2, moment.hour, rfl⟩
  · exact ⟨2, moment.minute, rfl⟩
  · exact ⟨2, moment.second, rfl⟩

theorem expand_clock : expand room text 0 ['%', 'H', ':', '%', 'M', ':', '%', 'S'] =
    text (.ofLetter 'H') ++ ':' :: (text (.ofLetter 'M') ++ ':' :: text (.ofLetter 'S')) := by
  have done : expand room text 0 [] = [] := rfl
  simp only [expand_letter (by decide : Field.IsLetter 'H'),
    expand_letter (by decide : Field.IsLetter 'M'), expand_letter (by decide : Field.IsLetter 'S'),
    expand_verbatim (by decide : ':' ≠ '%'), done, List.append_nil]

theorem expand_fileTimePattern : expand room text 0 fileTimePattern.toList =
    text (.ofLetter 'Y') ++ '-' :: (text (.ofLetter 'm') ++ '-' :: (text (.ofLetter 'd') ++
      ' ' :: (text (.ofLetter 'H') ++ ':' :: (text (.ofLetter 'M') ++
        ':' :: text (.ofLetter 'S'))))) := by
  have chars : fileTimePattern.toList = ['%', 'Y', '-', '%', 'm', '-', '%', 'd', ' ', '%', 'H', ':',
      '%', 'M', ':', '%', 'S'] := rfl
  simp only [chars, expand_letter (by decide : Field.IsLetter 'Y'),
    expand_letter (by decide : Field.IsLetter 'm'), expand_letter (by decide : Field.IsLetter 'd'),
    expand_verbatim (by decide : '-' ≠ '%'), expand_verbatim (by decide : ' ' ≠ '%'), expand_clock]

theorem quote_notMem_render (moment : Moment) : '"' ∉ (render fileTimePattern moment).toList := by
  have numbers : ∀ letter ∈ ['Y', 'm', 'd', 'H', 'M', 'S'], ∀ room,
      '"' ∉ fieldText moment room (.ofLetter letter) := by
    intro letter number room
    obtain ⟨places, value, filled⟩ := exists_fieldText_eq moment number
    rw [filled]
    exact Field.quote_notMem_fillNumber _ places value
  simp only [List.forall_mem_cons] at numbers
  obtain ⟨year, month, day, hour, minute, second, -⟩ := numbers
  simp only [render]
  split
  next => simp [expand_fileTimePattern, year, month, day, hour, minute, second]
  next => decide

end TimePattern

namespace Moment

theorem quote_notMem_render {moment : Moment} {time : String}
    (rendered : moment.render (some fileTimePattern) = .ok time) : '"' ∉ time.toList := by
  have written : moment.renderBy fileTimePattern = .ok time := rendered
  obtain ⟨_, -, ⟨⟩⟩ := Fault.bind_eq_ok_iff.mp written
  exact TimePattern.quote_notMem_render moment

def clockText (moment : Moment) : String :=
  zeroPadded 2 moment.hour ++ ":" ++ zeroPadded 2 moment.minute ++ ":" ++ zeroPadded 2 moment.second

theorem toList_clockText (moment : Moment) : moment.clockText.toList =
    Field.fillNumber {} 2 moment.hour ++ ':' :: (Field.fillNumber {} 2 moment.minute ++
      ':' :: Field.fillNumber {} 2 moment.second) := by
  have colon : ":".toList = [':'] := rfl
  simp [clockText, zeroPadded, colon]

theorem mem_clockText {moment : Moment} {c : Char} (member : c ∈ moment.clockText.toList) :
    Text.isAsciiDigit c = true ∨ c ∈ ['-', ' ', ':'] := by
  have number {value : Int} (among : c ∈ Field.fillNumber {} 2 value) :
      Text.isAsciiDigit c = true ∨ c ∈ ['-', ' ', ':'] := by
    rcases Field.mem_fillNumber among with digit | rfl | rfl
    · exact .inl digit
    · exact .inr (by decide)
    · exact .inr (by decide)
  rw [toList_clockText] at member
  simp only [List.mem_append, List.mem_cons] at member
  rcases member with hour | colon | minute | colon | second
  · exact number hour
  · exact .inr (by simp [colon])
  · exact number minute
  · exact .inr (by simp [colon])
  · exact number second

theorem isUpper_of_mem_clockText {moment : Moment} :
    ∀ c ∈ moment.clockText.toList, c.isUpper = false := by
  intro c member
  rcases mem_clockText member with digit | mark
  · exact Text.isUpper_of_isAsciiDigit digit
  · simp only [List.mem_cons, List.not_mem_nil, or_false] at mark
    rcases mark with rfl | rfl | rfl <;> rfl

theorem length_clockText (moment : Moment) : moment.clockText.toList.length = 8 := by
  have hour : (Field.fillNumber {} 2 moment.hour).length = 2 := by
    apply Field.length_fillNumber_two <;> unfold Moment.hour secondOfDay <;> omega
  have minute : (Field.fillNumber {} 2 moment.minute).length = 2 := by
    apply Field.length_fillNumber_two <;> unfold Moment.minute secondOfDay <;> omega
  have second : (Field.fillNumber {} 2 moment.second).length = 2 := by
    apply Field.length_fillNumber_two <;> unfold Moment.second secondOfDay <;> omega
  simp [toList_clockText, hour, minute, second]

end Moment

theorem TimePattern.render_consoleTimePattern (moment : Moment) :
    render consoleTimePattern moment = moment.clockText := by
  have chars : consoleTimePattern.toList = ['%', 'H', ':', '%', 'M', ':', '%', 'S'] := rfl
  have written (room : Nat) : expand room (fieldText moment room) 0 consoleTimePattern.toList =
      moment.clockText.toList := by
    rw [chars, expand_clock, Moment.toList_clockText]
    rfl
  have roomy : moment.clockText.toList.length < roomFor consoleTimePattern.length := by
    rw [Moment.length_clockText]
    decide
  simp only [render, written, if_pos roomy, String.ofList_toList]

theorem Moment.render_consoleTimePattern (moment : Moment) :
    moment.render (some consoleTimePattern) = (fun _ => moment.clockText) <$> moment.check := by
  have plain : '\x00' ∉ consoleTimePattern.toList := by decide
  have whole : moment.render (some consoleTimePattern) = moment.renderBy consoleTimePattern := rfl
  rw [whole, renderBy, TimePattern.render_consoleTimePattern]
  simp [plain]

end Flipbook.Log
