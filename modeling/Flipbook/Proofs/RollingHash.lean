import Flipbook.PageCache
import Mathlib.Data.Int.ModEq
import Mathlib.RingTheory.Coprime.Lemmas
import Mathlib.Tactic.NormNum.GCD
import Mathlib.Tactic.Ring

/-!
The hash of a text as a polynomial in the base, reduced by the modulus. Texts that differ in one
part only share a key exactly if that part has one hash in both of them.
-/

namespace Flipbook

namespace RollingHash

def polynomial : List Char → Int
  | [] => 0
  | c :: rest => weight c + base * polynomial rest

theorem polynomial_append (front back : List Char) :
    polynomial (front ++ back) = polynomial front + base ^ front.length * polynomial back := by
  induction front with
  | nil => simp [polynomial]
  | cons c rest ih =>
      rw [List.cons_append, polynomial, polynomial, ih, List.length_cons, pow_succ]
      ring

theorem accumulate_modEq (value power : Int) (text : List Char) :
    accumulate value power text ≡ value + power * polynomial text [ZMOD modulus] := by
  induction text generalizing value power with
  | nil => simp [accumulate, polynomial]
  | cons c rest ih =>
      calc accumulate value power (c :: rest)
          ≡ (value + weight c * power) % modulus + power * base % modulus * polynomial rest
              [ZMOD modulus] := ih _ _
        _ ≡ value + weight c * power + power * base * polynomial rest [ZMOD modulus] :=
            (Int.mod_modEq _ _).add ((Int.mod_modEq _ _).mul_right _)
        _ = value + power * polynomial (c :: rest) := by
            rw [polynomial]
            ring

theorem accumulate_emod {value : Int} (reduced : value % modulus = value) (power : Int)
    (text : List Char) : accumulate value power text % modulus = accumulate value power text := by
  induction text generalizing value power with
  | nil => exact reduced
  | cons c rest ih => exact ih (Int.emod_emod_of_dvd _ (Int.dvd_refl _)) _

theorem hash_eq (text : String) : hash text = polynomial text.toList % modulus := by
  have value : accumulate 0 1 text.toList % modulus = (0 + 1 * polynomial text.toList) % modulus :=
    accumulate_modEq 0 1 text.toList
  rw [accumulate_emod (by decide), Int.zero_add, Int.one_mul] at value
  exact value

theorem hash_eq_hash_iff {text other : String} :
    hash text = hash other ↔ polynomial text.toList ≡ polynomial other.toList [ZMOD modulus] := by
  rw [hash_eq, hash_eq, Int.ModEq]

theorem isCoprime_modulus_pow (length : Nat) : IsCoprime modulus (base ^ length) := by
  have coprime : IsCoprime modulus base := by
    rw [modulus, base, Int.isCoprime_iff_gcd_eq_one]
    norm_num
  exact coprime.pow_right

/-- What surrounds a part of a text neither adds a collision nor takes one away. -/
theorem hash_inner_eq_iff (front back : String) {inner other : String}
    (length : inner.length = other.length) :
    hash (front ++ inner ++ back) = hash (front ++ other ++ back) ↔ hash inner = hash other := by
  have lengths : inner.toList.length = other.toList.length := by
    rwa [String.length_toList, String.length_toList]
  have difference : polynomial (front ++ other ++ back).toList -
      polynomial (front ++ inner ++ back).toList =
        base ^ front.toList.length * (polynomial other.toList - polynomial inner.toList) := by
    simp only [String.toList_append, polynomial_append, List.length_append, lengths]
    ring
  rw [hash_eq_hash_iff, hash_eq_hash_iff, Int.modEq_iff_dvd, Int.modEq_iff_dvd, difference]
  constructor
  · exact (isCoprime_modulus_pow front.toList.length).dvd_of_dvd_mul_left
  · intro divides
    exact Dvd.dvd.mul_left divides _

def IsDigit (c : Char) : Prop := '!' ≤ c ∧ c ≤ '~'

instance (c : Char) : Decidable (IsDigit c) := inferInstanceAs (Decidable ('!' ≤ c ∧ c ≤ '~'))

theorem weight_bounds {c : Char} (digit : IsDigit c) : 1 ≤ weight c ∧ weight c < base := by
  obtain ⟨low, high⟩ := digit
  have least : 33 ≤ c.toNat := low
  have most : c.toNat ≤ 126 := high
  unfold weight base
  omega

theorem weight_injective {c other : Char} (same : weight c = weight other) : c = other := by
  unfold weight at same
  exact Char.toNat_inj.mp (by omega)

theorem polynomial_bounds {text : List Char} (digits : ∀ c ∈ text, IsDigit c) :
    0 ≤ polynomial text ∧ polynomial text < base ^ text.length := by
  induction text with
  | nil => simp [polynomial]
  | cons c rest ih =>
      obtain ⟨own, others⟩ := List.forall_mem_cons.mp digits
      have bounds := weight_bounds own
      have following := ih others
      rw [polynomial, List.length_cons, pow_succ]
      unfold base at *
      omega

theorem polynomial_injective {text other : List Char} (length : text.length = other.length)
    (digits : ∀ c ∈ text, IsDigit c) (others : ∀ c ∈ other, IsDigit c)
    (same : polynomial text = polynomial other) : text = other := by
  induction text generalizing other with
  | nil => exact (List.length_eq_zero_iff.mp length.symm).symm
  | cons c rest ih =>
      cases other with
      | nil => contradiction
      | cons d remaining =>
          obtain ⟨digit, digits⟩ := List.forall_mem_cons.mp digits
          obtain ⟨otherDigit, others⟩ := List.forall_mem_cons.mp others
          have bounds := weight_bounds digit
          have otherBounds := weight_bounds otherDigit
          rw [polynomial, polynomial] at same
          unfold base at *
          have first : weight c = weight d := by omega
          have following := ih (Nat.succ.inj length) digits others (by omega)
          rw [weight_injective first, following]

theorem hash_ne_of_ne {text other : String} (length : text.length = other.length)
    (short : text.length ≤ 4) (digits : ∀ c ∈ text.toList, IsDigit c)
    (others : ∀ c ∈ other.toList, IsDigit c) (different : text ≠ other) :
    hash text ≠ hash other := by
  have room : ∀ part : String, part.length ≤ 4 → (∀ c ∈ part.toList, IsDigit c) →
      hash part = polynomial part.toList := by
    intro part short digits
    obtain ⟨least, most⟩ := polynomial_bounds digits
    rw [String.length_toList] at most
    have places : base ^ part.length ≤ base ^ 4 := pow_le_pow_right₀ (by decide) short
    have below : base ^ 4 < modulus := by decide
    rw [hash_eq, Int.emod_eq_of_lt least (by omega)]
  intro same
  rw [room text short digits, room other (length ▸ short) others] at same
  refine different (String.toList_inj.mp (polynomial_injective ?_ digits others same))
  rwa [String.length_toList, String.length_toList]

end RollingHash

namespace PageCache

/-- Identities that differ in one part only, which is as long in both, share a key exactly if that
part has one hash. Up to four digits of the hash never share one. -/
theorem keyFor_numbered (front back : String) {inner other : String}
    (length : inner.length = other.length) :
    (keyFor (front ++ inner ++ back : String) = keyFor (front ++ other ++ back : String) ↔
        RollingHash.hash inner = RollingHash.hash other) ∧
      (inner.length ≤ 4 → (∀ c ∈ inner.toList, RollingHash.IsDigit c) →
        (∀ c ∈ other.toList, RollingHash.IsDigit c) → inner ≠ other →
        keyFor (front ++ inner ++ back : String) ≠ keyFor (front ++ other ++ back : String)) := by
  have collides := RollingHash.hash_inner_eq_iff front back length
  refine ⟨collides, ?_⟩
  intro short digits others different same
  exact RollingHash.hash_ne_of_ne length short digits others different (collides.mp same)

theorem keyFor_numbered_of_neighbours :
    "09".length = "10".length ∧
      (keyFor ("my atlas/hero" ++ "09" ++ ".png" : String) =
          keyFor ("my atlas/hero" ++ "10" ++ ".png" : String) ↔
        RollingHash.hash "09" = RollingHash.hash "10") ∧
      keyFor ("my atlas/hero" ++ "09" ++ ".png" : String) ≠
        keyFor ("my atlas/hero" ++ "10" ++ ".png" : String) := by
  have length : "09".length = "10".length := rfl
  obtain ⟨collides, differs⟩ := keyFor_numbered "my atlas/hero" ".png" length
  have digits : ∀ c ∈ "09".toList, RollingHash.IsDigit c := by simp [RollingHash.IsDigit]
  have others : ∀ c ∈ "10".toList, RollingHash.IsDigit c := by simp [RollingHash.IsDigit]
  exact ⟨length, collides, differs (by decide) digits others (by decide)⟩

end PageCache

end Flipbook
