import Flipbook.Binary64.Reading
import Flipbook.Proofs.Text.Numeral

/-!
Numbers that are read from a text without a minus sign. None of them lies below zero.
-/

namespace Flipbook.Binary64

variable {text : List Char} {number : Binary64}

inductive Unsigned : Binary64 → Prop
  | nan : Unsigned .nan
  | infinite : Unsigned (.infinite false)
  | finite (significand shift : Nat) : Unsigned (.finite false significand shift)

theorem Unsigned.not_below (unsigned : Unsigned number) : number.compareInt 0 ≠ some .lt := by
  cases unsigned with
  | nan => exact nofun
  | infinite => exact nofun
  | finite significand shift =>
      intro below
      have less : units false significand shift < 0 * unitsPerOne :=
        Std.compare_eq_lt.mp (Option.some.inj below)
      simp only [units, Bool.false_eq_true, if_false, Int.zero_mul] at less
      omega

theorem Unsigned.round (numerator denominator : Nat) :
    Unsigned (.round false numerator denominator) := by
  unfold Binary64.round
  dsimp only
  split
  · split
    · exact .infinite
    · exact .finite ..
  · split
    · exact .infinite
    · exact .finite ..

theorem Unsigned.ofDecimal (digits count : Nat) (exponent : Int) :
    Unsigned (.ofDecimal false digits count exponent) := by
  unfold Binary64.ofDecimal
  split
  · exact .finite ..
  · split
    · exact .infinite
    · split
      · exact .finite ..
      · split <;> exact .round ..

theorem Unsigned.of_readDecimal? (read : readDecimal? false text = some number) :
    Unsigned number := by
  unfold readDecimal? at read
  dsimp only at read
  split at read <;>
  · split at read
    · contradiction
    · obtain ⟨exponent, -, rfl⟩ := Option.map_eq_some_iff.mp read
      exact .ofDecimal ..

theorem Unsigned.of_readUnsigned? (read : readUnsigned? false text = some number) :
    Unsigned number := by
  unfold readUnsigned? at read
  dsimp only at read
  split at read
  · exact Option.some.inj read ▸ .infinite
  · split at read
    · exact Option.some.inj read ▸ .nan
    · exact .of_readDecimal? read

theorem Unsigned.of_read? (ascii : ∀ c ∈ text, Text.isAsciiDigit c = true)
    (read : read? (String.ofList text) = some number) : Unsigned number := by
  have blanks : ∀ c ∈ text, Text.isBlank c = false :=
    fun c member => Text.isBlank_of_isAsciiDigit (ascii c member)
  have unsigned : ∀ c ∈ text.head?, c ≠ '-' ∧ c ≠ '+' := by
    intro c first
    exact Text.unsigned_of_isAsciiDigit (ascii c (List.mem_of_mem_head? first))
  rw [read?, String.toList_ofList, Text.normalizeDigits_of_ascii ascii,
    Text.trimBlanks_of_none blanks, Text.joinDigits?_of_ascii ascii] at read
  simp only [Option.bind_eq_bind, Option.bind_some, Text.splitSign_of_unsigned unsigned] at read
  exact .of_readUnsigned? read

end Flipbook.Binary64
