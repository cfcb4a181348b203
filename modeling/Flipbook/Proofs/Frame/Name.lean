import Flipbook.Frame.Name
import Flipbook.Proofs.Text.Numeral
import Mathlib.Data.List.TakeWhile

/-!
Names of frames and the digits that they end in. A search from left to right, for as many digits as
there are up to the end of the name, finds all of these digits and leaves the key.
-/

namespace Flipbook.FrameName

variable {name : String} {digits : List Char}

def IsOverlong (name : String) : Prop := Text.maxDigits < (trailingDigits name).length

instance (name : String) : Decidable (IsOverlong name) :=
  inferInstanceAs (Decidable (Text.maxDigits < (trailingDigits name).length))

theorem IsOverlong.ne_nil (overlong : IsOverlong name) : trailingDigits name ≠ [] :=
  List.ne_nil_of_length_pos (Nat.zero_lt_of_lt overlong)

theorem number?_of_overlong (overlong : IsOverlong name) :
    number? name = .error (.digitLimit (trailingDigits name).length) := by
  have filled := List.isEmpty_eq_false_iff.mpr overlong.ne_nil
  rw [IsOverlong] at overlong
  simp [number?, filled, overlong]

def endsInDigit (name : String) : Bool := name.toList.getLast?.any Text.isAsciiDigit

theorem isEmpty_trailingDigits (name : String) :
    (trailingDigits name).isEmpty = !endsInDigit name := by
  unfold trailingDigits endsInDigit
  rw [List.isEmpty_reverse, List.getLast?_eq_head?_reverse]
  cases name.toList.reverse with
  | nil => rfl
  | cons c rest => cases digit : Text.isAsciiDigit c <;> simp [digit]

theorem toList_key_append (name : String) :
    (key name).toList ++ trailingDigits name = name.toList := by
  rw [key, trailingDigits, String.toList_ofList, ← List.reverse_append,
    List.takeWhile_append_dropWhile, List.reverse_reverse]

theorem isAsciiDigit_of_mem_trailingDigits :
    ∀ c ∈ trailingDigits name, Text.isAsciiDigit c = true := fun _ member =>
  List.mem_takeWhile_imp (List.mem_reverse.mp member)

theorem endsInDigit_key (name : String) : endsInDigit (key name) = false := by
  rw [endsInDigit, key, String.toList_ofList, List.getLast?_reverse,
    Text.any_head?_dropWhile_isAsciiDigit]

theorem trailingDigits_append (stops : endsInDigit name = false)
    (ascii : ∀ c ∈ digits, Text.isAsciiDigit c = true) :
    trailingDigits (name ++ String.ofList digits) = digits := by
  have decimal : ∀ c ∈ digits.reverse, Text.isAsciiDigit c = true := fun c member =>
    ascii c (List.mem_reverse.mp member)
  have none : trailingDigits name = [] := by
    rw [← List.isEmpty_iff, isEmpty_trailingDigits, stops, Bool.not_false]
  rw [trailingDigits, List.reverse_eq_nil_iff] at none
  rw [trailingDigits, String.toList_append, String.toList_ofList, List.reverse_append,
    List.takeWhile_append_of_pos decimal, none, List.append_nil, List.reverse_reverse]

theorem key_append (stops : endsInDigit name = false)
    (ascii : ∀ c ∈ digits, Text.isAsciiDigit c = true) :
    key (name ++ String.ofList digits) = name := by
  have whole := toList_key_append (name ++ String.ofList digits)
  rw [trailingDigits_append stops ascii, String.toList_append, String.toList_ofList] at whole
  exact String.toList_inj.mp (List.append_cancel_right whole)

theorem key_of_not_endsInDigit (stops : endsInDigit name = false) : key name = name := by
  have alone := @key_append name [] stops nofun
  rwa [String.ofList_nil, String.append_empty] at alone

theorem suffix_trailingDigits (ends : digits <:+ name.toList)
    (ascii : ∀ c ∈ digits, Text.isAsciiDigit c = true) : digits <:+ trailingDigits name := by
  rw [trailingDigits, ← List.reverse_prefix, List.reverse_reverse]
  have decimal : ∀ c ∈ digits.reverse, Text.isAsciiDigit c = true := fun c member =>
    ascii c (List.mem_reverse.mp member)
  obtain ⟨rest, whole⟩ := List.reverse_prefix.mpr ends
  rw [← whole, List.takeWhile_append_of_pos decimal]
  exact List.prefix_append ..

theorem number?_of_digits (filled : trailingDigits name ≠ []) (fits : ¬ IsOverlong name) :
    number? name = .ok (some (Nat.ofDigitChars 10 (trailingDigits name) 0)) := by
  have present : (trailingDigits name).isEmpty = false := List.isEmpty_eq_false_iff.mpr filled
  have decimal : ∀ c ∈ trailingDigits name, '0' ≤ c ∧ c ≤ '9' := fun c member =>
    Text.isAsciiDigit_iff.mp (isAsciiDigit_of_mem_trailingDigits c member)
  rw [IsOverlong] at fits
  simp [number?, present, fits, Text.digitsValue_eq_ofDigitChars decimal]

theorem number?_of_no_digits (empty : trailingDigits name = []) : number? name = .ok none := by
  simp [number?, empty]

theorem number?_of_not_overlong (fits : ¬ IsOverlong name) :
    ∃ number, number? name = .ok number := by
  by_cases empty : trailingDigits name = []
  · exact ⟨none, number?_of_no_digits empty⟩
  · exact ⟨_, number?_of_digits empty fits⟩

/-- How many characters at the start of a text may be taken as digits, the most first. -/
def repetitions : List Char → List Nat
  | [] => [0]
  | c :: rest =>
    if Text.isAsciiDigit c then (repetitions rest).map (· + 1) ++ [0] else [0]

def matchLength? (text : List Char) : Option Nat :=
  (repetitions text).find? fun count => (text.drop count).isEmpty

/-- The first place from the left with digits up to the end of the text, and their number. -/
def search? : List Char → Option (Nat × Nat)
  | [] => (matchLength? []).map (0, ·)
  | c :: rest =>
    match matchLength? (c :: rest) with
    | some count => some (0, count)
    | none => (search? rest).map fun found => (found.1 + 1, found.2)

def found? (text : List Char) : Option (List Char) :=
  (search? text).map fun found => (text.drop found.1).take found.2

def removeFound (text : List Char) : List Char :=
  match search? text with
  | some found => text.take found.1 ++ text.drop (found.1 + found.2)
  | none => text

theorem matchLength?_eq (text : List Char) :
    matchLength? text = if text.all Text.isAsciiDigit then some text.length else none := by
  induction text with
  | nil => rfl
  | cons c rest ih =>
      rw [matchLength?] at ih
      cases digit : Text.isAsciiDigit c with
      | false => simp [matchLength?, repetitions, digit]
      | true =>
          have longer : (fun count => ((c :: rest).drop count).isEmpty) ∘ (· + 1) =
              fun count => (rest.drop count).isEmpty := rfl
          simp only [matchLength?, repetitions, digit, if_true, List.find?_append, List.find?_map,
            longer, ih, List.all_cons, Bool.true_and, List.length_cons]
          cases rest.all Text.isAsciiDigit <;> rfl

theorem search?_append {front : List Char} (stops : front.getLast?.any Text.isAsciiDigit = false)
    (ascii : ∀ c ∈ digits, Text.isAsciiDigit c = true) :
    search? (front ++ digits) = some (front.length, digits.length) := by
  induction front with
  | nil =>
      have whole := matchLength?_eq digits
      rw [if_pos (List.all_eq_true.mpr ascii)] at whole
      cases digits with
      | nil => rfl
      | cons c rest => rw [List.nil_append, search?, whole]; rfl
  | cons c rest ih =>
      have refused : ((c :: rest) ++ digits).all Text.isAsciiDigit = false := by
        have final := List.getLast?_eq_some_getLast (List.cons_ne_nil c rest)
        rw [final, Option.any_some] at stops
        exact List.all_eq_false.mpr ⟨_, List.mem_append_left digits (List.getLast_mem _),
          Bool.eq_false_iff.mp stops⟩
      have later : rest.getLast?.any Text.isAsciiDigit = false := by
        cases rest with
        | nil => rfl
        | cons d others => exact stops
      have missed := matchLength?_eq ((c :: rest) ++ digits)
      rw [if_neg (Bool.eq_false_iff.mp refused)] at missed
      rw [List.cons_append] at missed
      simp only [List.cons_append, search?, missed, ih later, Option.map_some, List.length_cons]

theorem search?_name (name : String) :
    search? name.toList = some ((key name).toList.length, (trailingDigits name).length) := by
  rw [← toList_key_append]
  exact search?_append (endsInDigit_key name) isAsciiDigit_of_mem_trailingDigits

theorem found?_name (name : String) : found? name.toList = some (trailingDigits name) := by
  rw [found?, search?_name, ← toList_key_append name]
  simp

theorem removeFound_name (name : String) : String.ofList (removeFound name.toList) = key name := by
  rw [removeFound, search?_name, ← toList_key_append name]
  simp

structure Splits (name : String) : Prop where
  whole : name = key name ++ String.ofList (trailingDigits name)
  ascii : ∀ c ∈ trailingDigits name, '0' ≤ c ∧ c ≤ '9'
  longest : ∀ digits : List Char, digits <:+ name.toList → (∀ c ∈ digits, '0' ≤ c ∧ c ≤ '9') →
    digits <:+ trailingDigits name
  found : found? name.toList = some (trailingDigits name)
  removed : String.ofList (removeFound name.toList) = key name
  again : key (key name) = key name
  none_iff : number? name = .ok none ↔ trailingDigits name = []
  some_iff : ∀ value, number? name = .ok (some value) ↔
    trailingDigits name ≠ [] ∧ (trailingDigits name).length ≤ Text.maxDigits ∧
      value = Nat.ofDigitChars 10 (trailingDigits name) 0
  error_iff : ∀ fault, number? name = .error fault ↔
    Text.maxDigits < (trailingDigits name).length ∧
      fault = .digitLimit (trailingDigits name).length

theorem number?_cases (name : String) :
    (trailingDigits name = [] ∧ number? name = .ok none) ∨
      (trailingDigits name ≠ [] ∧ ¬ IsOverlong name ∧
        number? name = .ok (some (Nat.ofDigitChars 10 (trailingDigits name) 0))) ∨
      (trailingDigits name ≠ [] ∧ IsOverlong name ∧
        number? name = .error (.digitLimit (trailingDigits name).length)) := by
  by_cases overlong : IsOverlong name
  · exact .inr (.inr ⟨overlong.ne_nil, overlong, number?_of_overlong overlong⟩)
  · by_cases empty : trailingDigits name = []
    · exact .inl ⟨empty, number?_of_no_digits empty⟩
    · exact .inr (.inl ⟨empty, overlong, number?_of_digits empty overlong⟩)

theorem splits (name : String) : Splits name where
  whole := by
    rw [← String.toList_inj, String.toList_append, String.toList_ofList, toList_key_append]
  ascii c member := Text.isAsciiDigit_iff.mp (isAsciiDigit_of_mem_trailingDigits c member)
  longest _ ends ascii := suffix_trailingDigits ends fun c member =>
    Text.isAsciiDigit_iff.mpr (ascii c member)
  found := found?_name name
  removed := removeFound_name name
  again := key_of_not_endsInDigit (endsInDigit_key name)
  none_iff := by
    rcases number?_cases name with ⟨empty, read⟩ | ⟨filled, -, read⟩ | ⟨filled, -, read⟩
    · simp [empty, read]
    · simp [filled, read]
    · simp [filled, read]
  some_iff value := by
    rw [← Nat.not_lt]
    rcases number?_cases name with ⟨empty, read⟩ | ⟨filled, fits, read⟩ | ⟨-, overlong, read⟩
    · simp [empty, read]
    · rw [IsOverlong] at fits
      simp [filled, fits, read, eq_comm]
    · rw [IsOverlong] at overlong
      simp [overlong, read]
  error_iff fault := by
    rcases number?_cases name with ⟨empty, read⟩ | ⟨-, fits, read⟩ | ⟨-, overlong, read⟩
    · simp [empty, read]
    · rw [IsOverlong] at fits
      simp [fits, read]
    · rw [IsOverlong] at overlong
      simp [overlong, read, eq_comm]

/-- Every name is split at the longest run of digits at its end, and a key with digits behind it is
split there. -/
theorem splits_and_rejoins :
    (∀ name, Splits name) ∧
      ∀ (name : String) (digits : List Char), endsInDigit name = false → digits ≠ [] →
        (∀ c ∈ digits, '0' ≤ c ∧ c ≤ '9') → digits.length ≤ Text.maxDigits →
          key (name ++ String.ofList digits) = name ∧
            number? (name ++ String.ofList digits) =
              .ok (some (Nat.ofDigitChars 10 digits 0)) := by
  refine ⟨splits, fun name digits stops filled ascii fits => ?_⟩
  have decimal : ∀ c ∈ digits, Text.isAsciiDigit c = true := fun c member =>
    Text.isAsciiDigit_iff.mpr (ascii c member)
  have same := trailingDigits_append stops decimal
  refine ⟨key_append stops decimal, ?_⟩
  rw [number?_of_digits, same]
  · rwa [same]
  · rwa [IsOverlong, same, Nat.not_lt]

theorem rejoins_heroIdle007 :
    endsInDigit "heroIdle" = false ∧
      key ("heroIdle" ++ String.ofList ['0', '0', '7']) = "heroIdle" ∧
        number? ("heroIdle" ++ String.ofList ['0', '0', '7']) = .ok (some 7) :=
  ⟨by decide, splits_and_rejoins.2 "heroIdle" ['0', '0', '7'] (by decide) (by decide)
    (by simp) (by decide)⟩

example : key "hero7\n" = "hero7\n" ∧ key "hero\u06634" = "hero\u0663" := by decide

end Flipbook.FrameName
