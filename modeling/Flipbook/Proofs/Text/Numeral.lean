import Flipbook.Text.Numeral

/-!
Numerals that consist of digits only. They are read if their digits stand in decimal numerals and
are not too many, and a whole number that may be written is read back from its decimal digits.
-/

namespace Flipbook.Text

variable {text digits : List Char} {c : Char}

theorem isAsciiDigit_iff : isAsciiDigit c = true ↔ '0' ≤ c ∧ c ≤ '9' := by
  unfold isAsciiDigit asciiDigit?
  split <;> simp_all

theorem any_head?_dropWhile_isAsciiDigit (text : List Char) :
    (text.dropWhile isAsciiDigit).head?.any isAsciiDigit = false := by
  have stops := List.head?_dropWhile_not isAsciiDigit text
  cases first : (text.dropWhile isAsciiDigit).head? with
  | none => rfl
  | some c =>
      rw [first] at stops
      exact stops

theorem toNat_of_isAsciiDigit (digit : isAsciiDigit c = true) : 48 ≤ c.toNat ∧ c.toNat ≤ 57 := by
  obtain ⟨lower, upper⟩ := isAsciiDigit_iff.mp digit
  rw [Char.le_def] at lower upper
  exact ⟨lower, upper⟩

theorem isBlank_of_isAsciiDigit (digit : isAsciiDigit c = true) : isBlank c = false := by
  have bounds := toNat_of_isAsciiDigit digit
  simp only [isBlank, Bool.or_eq_false_iff, Bool.and_eq_false_iff, decide_eq_false_iff_not,
    beq_eq_false_iff_ne]
  omega

theorem isUpper_of_isAsciiDigit (digit : isAsciiDigit c = true) : c.isUpper = false := by
  have bounds := toNat_of_isAsciiDigit digit
  refine decide_eq_false ?_
  intro upper
  have first : 65 ≤ c.toNat := UInt32.le_iff_toNat_le.mp upper.1
  omega

theorem decimalDigit?_of_isAsciiDigit (digit : isAsciiDigit c = true) :
    decimalDigit? c = some (c.toNat - 48) := by
  have bounds := toNat_of_isAsciiDigit digit
  have first : 0x30 ≤ c.toNat ∧ c.toNat < 0x30 + 10 := by omega
  simp [decimalDigit?, decimalZeros, first]

theorem decimalDigit?_lt {value : Nat} (decimal : decimalDigit? c = some value) : value < 10 := by
  obtain ⟨first, found, rfl⟩ := Option.map_eq_some_iff.mp decimal
  have inside := List.find?_some found
  simp only [Bool.and_eq_true, decide_eq_true_eq] at inside
  omega

theorem asciiDigit?_ofNat {value : Nat} (less : value < 10) :
    asciiDigit? (Char.ofNat (48 + value)) = some value := by
  have digits : ∀ value < 10, asciiDigit? (Char.ofNat (48 + value)) = some value := by decide
  exact digits value less

theorem isAsciiDigit_ofNat {value : Nat} (less : value < 10) :
    isAsciiDigit (Char.ofNat (48 + value)) = true := by
  rw [isAsciiDigit, asciiDigit?_ofNat less]
  rfl

theorem normalizeDigits_of_ascii (ascii : ∀ c ∈ digits, isAsciiDigit c = true) :
    normalizeDigits digits = digits := by
  rw [normalizeDigits, List.map_congr_left, List.map_id]
  intro c member
  have digit := ascii c member
  have bounds := toNat_of_isAsciiDigit digit
  rw [decimalDigit?_of_isAsciiDigit digit]
  simp only
  rw [Nat.add_sub_cancel' bounds.1, Char.ofNat_toNat, id]

theorem trimBlanks_of_none (none : ∀ c ∈ text, isBlank c = false) : trimBlanks text = text := by
  have kept : ∀ text : List Char, (∀ c ∈ text, isBlank c = false) →
      text.dropWhile isBlank = text := by
    intro text none
    cases text with
    | nil => rfl
    | cons c rest => exact List.dropWhile_cons_of_neg (by simp [none c List.mem_cons_self])
  rw [trimBlanks, trim, kept text none, kept text.reverse, List.reverse_reverse]
  intro c member
  exact none c (List.mem_reverse.mp member)

theorem joinDigits?_of_ascii (ascii : ∀ c ∈ digits, isAsciiDigit c = true) (previous : Char) :
    joinDigits? previous digits = some digits := by
  induction digits generalizing previous with
  | nil => rfl
  | cons c rest ih =>
      obtain ⟨digit, others⟩ := List.forall_mem_cons.mp ascii
      have different : c ≠ '_' := by
        rintro rfl
        exact absurd digit (by decide)
      rw [joinDigits?, ih others]
      · rfl
      · exact different

theorem splitSign_of_unsigned (unsigned : ∀ c ∈ text.head?, c ≠ '-' ∧ c ≠ '+') :
    splitSign text = (false, text) := by
  cases text with
  | nil => rfl
  | cons c rest =>
      obtain ⟨minus, plus⟩ := unsigned c rfl
      unfold splitSign
      split
      next same => exact absurd (List.cons.inj same).1 minus
      next same => exact absurd (List.cons.inj same).1 plus
      next => rfl

theorem unsigned_of_isAsciiDigit (digit : isAsciiDigit c = true) : c ≠ '-' ∧ c ≠ '+' := by
  constructor <;>
  · rintro rfl
    exact absurd digit (by decide)

theorem readUnpadded_append {rest : List Char} (ascii : ∀ c ∈ digits, isAsciiDigit c = true)
    (unsigned : ∀ c ∈ (digits ++ rest).head?, c ≠ '-' ∧ c ≠ '+')
    (stops : ∀ c ∈ rest.head?, isAsciiDigit c = false ∧ c ≠ '_') :
    readUnpadded (digits ++ rest) =
      if digits = [] then .malformed
      else if maxDigits < digits.length then .tooLong digits.length
      else if rest = [] then .value (digitsValue digits) else .malformed := by
  have part : ∀ c ∈ digits, (isAsciiDigit c || c == '_') = true := by
    intro c member
    simp [ascii c member]
  have none : rest.takeWhile (fun c => isAsciiDigit c || c == '_') = [] ∧
      rest.dropWhile (fun c => isAsciiDigit c || c == '_') = rest := by
    cases rest with
    | nil => exact ⟨rfl, rfl⟩
    | cons c others =>
        obtain ⟨notDigit, different⟩ := stops c rfl
        simp [notDigit, different]
  unfold readUnpadded
  rw [splitSign_of_unsigned unsigned]
  simp only [List.takeWhile_append_of_pos part, List.dropWhile_append_of_pos part, none.1, none.2,
    List.append_nil, joinDigits?_of_ascii ascii]
  cases digits with
  | nil => rfl
  | cons c others => simp [List.isEmpty_iff]

theorem readNumeral_of_ascii (ascii : ∀ c ∈ digits, isAsciiDigit c = true)
    (filled : digits ≠ []) :
    readNumeral (String.ofList digits) =
      if maxDigits < digits.length then .tooLong digits.length
      else .value (digitsValue digits) := by
  have blanks : ∀ c ∈ digits, isBlank c = false :=
    fun c member => isBlank_of_isAsciiDigit (ascii c member)
  have unsigned : ∀ c ∈ (digits ++ []).head?, c ≠ '-' ∧ c ≠ '+' := by
    intro c first
    rw [List.append_nil] at first
    exact unsigned_of_isAsciiDigit (ascii c (List.mem_of_mem_head? first))
  have read := readUnpadded_append ascii unsigned (by simp)
  rw [List.append_nil, if_neg filled, if_pos rfl] at read
  rw [readNumeral, String.toList_ofList, normalizeDigits_of_ascii ascii,
    trimBlanks_of_none blanks, read]

theorem digitsValue_eq_ofDigitChars (ascii : ∀ c ∈ digits, '0' ≤ c ∧ c ≤ '9') :
    digitsValue digits = Nat.ofDigitChars 10 digits 0 := by
  have folded : ∀ value, digits.foldl
      (fun value c => value * 10 + (asciiDigit? c).getD 0) value =
        Nat.ofDigitChars 10 digits value := by
    induction digits with
    | nil => exact fun value => rfl
    | cons c rest ih =>
        intro value
        obtain ⟨digit, others⟩ := List.forall_mem_cons.mp ascii
        rw [List.foldl_cons, ih others, Nat.ofDigitChars_cons]
        simp [asciiDigit?, digit, Nat.mul_comm]
  exact folded 0

theorem digitsValue_append {others : List Char}
    (ascii : ∀ c ∈ digits, '0' ≤ c ∧ c ≤ '9') (decimal : ∀ c ∈ others, '0' ≤ c ∧ c ≤ '9') :
    digitsValue (digits ++ others) =
      digitsValue digits * Nat.pow 10 others.length + digitsValue others := by
  have both : ∀ c ∈ digits ++ others, '0' ≤ c ∧ c ≤ '9' := fun c member =>
    (List.mem_append.mp member).elim (ascii c) (decimal c)
  rw [digitsValue_eq_ofDigitChars both, Nat.ofDigitChars_append,
    Nat.ofDigitChars_eq_ofDigitChars_zero, Nat.mul_comm, ← digitsValue_eq_ofDigitChars ascii,
    ← digitsValue_eq_ofDigitChars decimal]
  rfl

theorem isAsciiDigit_of_mem_toDigits {value : Nat} (member : c ∈ Nat.toDigits 10 value) :
    isAsciiDigit c = true := by
  have digit := Nat.isDigit_of_mem_toDigits (by decide) (by decide) member
  rw [isAsciiDigit_iff]
  simpa [Char.isDigit, Char.le_def] using digit

theorem toDigits_ne_nil (value : Nat) : Nat.toDigits 10 value ≠ [] := by
  rw [Nat.toDigits_eq_if (by decide)]
  split <;> simp

theorem digitsValue_toDigits (value : Nat) : digitsValue (Nat.toDigits 10 value) = value := by
  rw [digitsValue_eq_ofDigitChars fun c member =>
    isAsciiDigit_iff.mp (isAsciiDigit_of_mem_toDigits member)]
  exact Nat.ofDigitChars_toDigits (by decide) (by decide)

theorem isWritable_natCast_iff (value : Nat) :
    isWritable value = true ↔ (Nat.toDigits 10 value).length ≤ maxDigits := by
  rw [Nat.length_toDigits_le_iff (by decide) (by decide)]
  simp [isWritable]

theorem readNumeral_natCast (value : Nat) : readNumeral (toString (value : Int)) =
    if isWritable value then .value value else .tooLong (Nat.toDigits 10 value).length := by
  have text : toString (value : Int) = String.ofList (Nat.toDigits 10 value) := by
    rw [← Nat.repr_eq_ofList_toDigits]
    rfl
  rw [text, readNumeral_of_ascii (fun c => isAsciiDigit_of_mem_toDigits) (toDigits_ne_nil value),
    digitsValue_toDigits]
  by_cases fits : isWritable value = true
  · rw [if_pos fits, if_neg (Nat.not_lt.mpr ((isWritable_natCast_iff value).mp fits))]
  · have long : maxDigits < (Nat.toDigits 10 value).length := by
      rw [isWritable_natCast_iff] at fits
      omega
    rw [if_neg fits, if_pos long]

theorem digitsValue_lt (digits : List Char) : digitsValue digits < Nat.pow 10 digits.length := by
  have folded : ∀ value, digits.foldl
      (fun value c => value * 10 + (asciiDigit? c).getD 0) value <
        (value + 1) * Nat.pow 10 digits.length := by
    induction digits with
    | nil => exact fun value => Nat.lt_of_lt_of_eq (Nat.lt_succ_self value) (Nat.mul_one _).symm
    | cons c rest ih =>
        intro value
        have digit : (asciiDigit? c).getD 0 ≤ 9 := by
          unfold asciiDigit?
          split
          next inside =>
              have bounds := toNat_of_isAsciiDigit (isAsciiDigit_iff.mpr inside)
              simp only [Option.getD_some]
              omega
          next => exact Nat.zero_le 9
        have power : Nat.pow 10 (c :: rest).length = Nat.pow 10 rest.length * 10 := rfl
        rw [List.foldl_cons]
        calc rest.foldl (fun value c => value * 10 + (asciiDigit? c).getD 0)
              (value * 10 + (asciiDigit? c).getD 0)
            < (value * 10 + (asciiDigit? c).getD 0 + 1) * Nat.pow 10 rest.length := ih _
          _ ≤ ((value + 1) * 10) * Nat.pow 10 rest.length := Nat.mul_le_mul_right _ (by omega)
          _ = (value + 1) * Nat.pow 10 (c :: rest).length := by
            rw [power, Nat.mul_comm (Nat.pow 10 rest.length), Nat.mul_assoc]
  have bound := folded 0
  rwa [Nat.zero_add, Nat.one_mul] at bound

/-- Whether digits stand in decimal numerals and are few enough to be read as one. -/
def IsNumeral (text : List Char) : Prop :=
  (∀ c ∈ text, (decimalDigit? c).isSome = true) ∧ text.length ≤ maxDigits

structure IsLoneDigit (c : Char) : Prop where
  notAscii : isAsciiDigit c = false
  notBlank : isBlank c = false
  noPart : c ≠ '_'
  unsigned : c ≠ '-' ∧ c ≠ '+'

theorem isLoneDigit_of_isDigit (digit : isDigit c = true) (other : decimalDigit? c = none) :
    IsLoneDigit c := by
  have lone : 0xb2 ≤ c.toNat ∧ isBlank c = false := by
    rw [isDigit, other] at digit
    simp only [loneDigitRanges, List.any_cons, List.any_nil, Option.isSome_none, Bool.false_or,
      Bool.or_false, Bool.or_eq_true, Bool.and_eq_true, decide_eq_true_eq] at digit
    simp only [isBlank, Bool.or_eq_false_iff, Bool.and_eq_false_iff, decide_eq_false_iff_not,
      beq_eq_false_iff_ne]
    omega
  have different : ∀ d : Char, d.toNat < 0xb2 → c ≠ d := by
    rintro d less rfl
    omega
  refine ⟨?_, lone.2, different _ (by decide), different _ (by decide), different _ (by decide)⟩
  rw [Bool.eq_false_iff]
  intro ascii
  have bounds := toNat_of_isAsciiDigit ascii
  omega

theorem normalizeDigits_cons_of_decimal {value : Nat} (decimal : decimalDigit? c = some value) :
    normalizeDigits (c :: text) = Char.ofNat (48 + value) :: normalizeDigits text := by
  simp [normalizeDigits, decimal]

theorem normalizeDigits_cons_of_lone (other : decimalDigit? c = none) :
    normalizeDigits (c :: text) = c :: normalizeDigits text := by
  simp [normalizeDigits, other]

theorem isBlank_of_mem_normalizeDigits (digit : ∀ c ∈ text, isDigit c = true) :
    ∀ c ∈ normalizeDigits text, isBlank c = false := by
  induction text with
  | nil => exact nofun
  | cons c rest ih =>
      obtain ⟨here, others⟩ := List.forall_mem_cons.mp digit
      cases decimal : decimalDigit? c with
      | none =>
          rw [normalizeDigits_cons_of_lone decimal]
          exact List.forall_mem_cons.mpr ⟨(isLoneDigit_of_isDigit here decimal).notBlank, ih others⟩
      | some value =>
          rw [normalizeDigits_cons_of_decimal decimal]
          refine List.forall_mem_cons.mpr ⟨isBlank_of_isAsciiDigit ?_, ih others⟩
          exact isAsciiDigit_ofNat (decimalDigit?_lt decimal)

theorem exists_normalizeDigits_eq (digit : ∀ c ∈ text, isDigit c = true) :
    ∃ digits rest, normalizeDigits text = digits ++ rest ∧
      (∀ c ∈ digits, isAsciiDigit c = true) ∧ (∀ c ∈ rest.head?, IsLoneDigit c) ∧
        (rest = [] ↔ ∀ c ∈ text, (decimalDigit? c).isSome = true) := by
  induction text with
  | nil => exact ⟨[], [], rfl, nofun, nofun, by simp⟩
  | cons c rest ih =>
      obtain ⟨here, others⟩ := List.forall_mem_cons.mp digit
      cases decimal : decimalDigit? c with
      | none =>
          refine ⟨[], c :: normalizeDigits rest, normalizeDigits_cons_of_lone decimal, nofun, ?_,
            ?_⟩
          · rintro d ⟨⟩
            exact isLoneDigit_of_isDigit here decimal
          · simp [decimal]
      | some value =>
          obtain ⟨digits, tail, same, ascii, lone, whole⟩ := ih others
          refine ⟨Char.ofNat (48 + value) :: digits, tail, ?_, ?_, lone, ?_⟩
          · rw [normalizeDigits_cons_of_decimal decimal, same, List.cons_append]
          · exact List.forall_mem_cons.mpr
              ⟨isAsciiDigit_ofNat (decimalDigit?_lt decimal), ascii⟩
          · rw [whole, List.forall_mem_cons, decimal]
            simp

theorem readNumeral_cases (digit : ∀ c ∈ text, isDigit c = true) (filled : text ≠ []) :
    (IsNumeral text ∧
        readNumeral (String.ofList text) = .value (digitsValue (normalizeDigits text))) ∨
      (¬ IsNumeral text ∧ ∀ value, readNumeral (String.ofList text) ≠ .value value) := by
  obtain ⟨digits, rest, same, ascii, lone, whole⟩ := exists_normalizeDigits_eq digit
  have length : text.length = digits.length + rest.length := by
    rw [← List.length_append, ← same, normalizeDigits, List.length_map]
  have unsigned : ∀ c ∈ (digits ++ rest).head?, c ≠ '-' ∧ c ≠ '+' := by
    intro c first
    cases digits with
    | nil => exact (lone c first).unsigned
    | cons d digits => exact unsigned_of_isAsciiDigit (ascii c (List.mem_of_mem_head? first))
  have read := readUnpadded_append ascii unsigned fun c first =>
    ⟨(lone c first).notAscii, (lone c first).noPart⟩
  rw [readNumeral, String.toList_ofList,
    trimBlanks_of_none (isBlank_of_mem_normalizeDigits digit), same, read]
  by_cases empty : rest = []
  · subst empty
    have decimal := whole.mp rfl
    have some : digits ≠ [] := by
      rintro rfl
      exact filled (List.length_eq_zero_iff.mp length)
    rw [if_neg some, if_pos rfl, List.append_nil]
    rw [List.length_nil, Nat.add_zero] at length
    by_cases long : maxDigits < digits.length
    · refine .inr ⟨fun numeral => ?_, by simp [long]⟩
      have short := numeral.2
      omega
    · exact .inl ⟨⟨decimal, by omega⟩, if_neg long⟩
  · refine .inr ⟨fun numeral => empty (whole.mpr numeral.1), ?_⟩
    rw [if_neg empty]
    intro value
    split
    · exact nofun
    · split <;> exact nofun

end Flipbook.Text
