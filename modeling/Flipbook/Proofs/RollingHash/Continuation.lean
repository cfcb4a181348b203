import Flipbook.Proofs.RollingHash
import Mathlib.Algebra.BigOperators.Fin
import Mathlib.NumberTheory.LucasPrimality
import Mathlib.RingTheory.Int.Basic
import Mathlib.Tactic.NormNum.Prime
import Mathlib.Tactic.ReduceModChar

/-!
Hashes from any start value. The start value is added to the polynomial of a text, whose power
begins at one again, so that the hash of what stands in front is continued by it only where that
power is one anyway.
-/

namespace Flipbook.RollingHash

theorem polynomial_eq_sum (text : List Char) : polynomial text =
    ∑ place : Fin text.length, ((text[place].toNat : Int) - 32) * 95 ^ (place : ℕ) := by
  induction text with
  | nil => rfl
  | cons c rest ih =>
      change _ = ∑ place : Fin (rest.length + 1), _
      rw [polynomial, ih, Fin.sum_univ_succ, Finset.mul_sum]
      congr 1
      · simp [weight]
      · refine Finset.sum_congr rfl fun place _ => ?_
        simp only [base, Fin.getElem_fin, Fin.val_succ, List.getElem_cons_succ, pow_succ]
        ring

theorem hash_modEq (text : String) (start : Int) :
    hash text start ≡ start + polynomial text.toList [ZMOD modulus] := by
  have counted := accumulate_modEq start 1 text.toList
  rwa [Int.one_mul] at counted

theorem hash_emod {text : String} (filled : text ≠ "") (start : Int) :
    hash text start % modulus = hash text start := by
  unfold hash
  cases characters : text.toList with
  | nil => exact absurd (String.toList_eq_nil_iff.mp characters) filled
  | cons c rest => exact accumulate_emod (Int.emod_emod_of_dvd _ (Int.dvd_refl _)) _ _

theorem polynomial_modEq_hash (text : String) :
    polynomial text.toList ≡ hash text [ZMOD modulus] := by
  rw [hash_eq]
  exact (Int.mod_modEq _ _).symm

theorem hash_append_modEq (front back : String) (start : Int) : hash (front ++ back) start ≡
    hash front start + base ^ front.length * hash back [ZMOD modulus] := by
  calc hash (front ++ back) start
      ≡ start + polynomial (front ++ back).toList [ZMOD modulus] := hash_modEq _ _
    _ = start + polynomial front.toList + base ^ front.length * polynomial back.toList := by
        rw [String.toList_append, polynomial_append, String.length_toList]
        ring
    _ ≡ hash front start + base ^ front.length * hash back [ZMOD modulus] :=
        (hash_modEq front start).symm.add ((polynomial_modEq_hash back).mul_left _)

/-- The hash of a text that is not empty is the start value plus its characters as digits to the
base of 95, the lowest first, reduced by the modulus. A text behind another one counts from the
power that is reached there. -/
theorem hash_evaluates (start : Int) :
    (∀ text : String, text ≠ "" →
      hash text start = (start + ∑ place : Fin text.toList.length,
        ((text.toList[place].toNat : Int) - 32) * 95 ^ (place : ℕ)) % 1000000009 ∧
      0 ≤ hash text start ∧ hash text start < 1000000009) ∧
    ∀ front back : String, hash (front ++ back) start ≡
      hash front start + 95 ^ front.length * hash back [ZMOD 1000000009] := by
  refine ⟨fun text filled => ?_, fun front back => hash_append_modEq front back start⟩
  have reduced := hash_emod filled start
  have counted : hash text start % modulus = (start + polynomial text.toList) % modulus :=
    hash_modEq text start
  rw [reduced, polynomial_eq_sum] at counted
  refine ⟨counted, ?_, ?_⟩
  · rw [← reduced]
    exact Int.emod_nonneg _ (by decide)
  · rw [← reduced]
    exact Int.emod_lt_of_pos _ (by decide)

theorem hash_evaluates_of_tab : "\ta" ≠ "" ∧
    hash "\ta" (-7) = (-7 + ((9 - 32) + (97 - 32) * 95)) % 1000000009 ∧
    0 ≤ hash "\ta" (-7) ∧ hash "\ta" (-7) < 1000000009 := by
  have filled : "\ta" ≠ "" := by decide
  obtain ⟨counted, bounds⟩ := (hash_evaluates (-7)).1 "\ta" filled
  exact ⟨filled, counted, bounds⟩

def orderFactors : List ℕ := [2, 2, 2, 3, 3, 7, 109, 109, 167]

theorem mem_orderFactors {q : ℕ} (prime : q.Prime) (divides : q ∣ 1000000008) :
    q ∈ orderFactors := by
  have factored : orderFactors.prod = 1000000008 := rfl
  have primes : ∀ factor ∈ orderFactors, Prime factor := by
    simp only [orderFactors, List.forall_mem_cons, List.not_mem_nil, false_implies,
      implies_true, and_true, ← Nat.prime_iff]
    norm_num
  rw [← factored] at divides
  exact mem_list_primes_of_dvd_prod (Nat.prime_iff.mp prime) primes divides

theorem pow_order_base : (95 : ZMod 1000000009) ^ 1000000008 = 1 := by
  reduce_mod_char

theorem pow_div_base_ne_one {q : ℕ} (prime : q.Prime) (divides : q ∣ 1000000008) :
    (95 : ZMod 1000000009) ^ (1000000008 / q) ≠ 1 := by
  have member := mem_orderFactors prime divides
  simp only [orderFactors, List.mem_cons, List.not_mem_nil, or_false] at member
  rcases member with rfl | rfl | rfl | rfl | rfl | rfl | rfl | rfl | rfl <;>
  · simp only [Nat.reduceDiv]
    reduce_mod_char
    decide

/-- The base generates all remainders but zero, which shows that the modulus is a prime. -/
theorem prime_modulus : Nat.Prime 1000000009 :=
  lucas_primality 1000000009 95 pow_order_base fun _ => pow_div_base_ne_one

theorem orderOf_base : orderOf (95 : ZMod 1000000009) = 1000000008 :=
  orderOf_eq_of_pow_and_pow_div_prime (by decide) pow_order_base fun _ => pow_div_base_ne_one

theorem modulus_dvd_pow_sub_one_iff (length : ℕ) :
    modulus ∣ base ^ length - 1 ↔ 1000000008 ∣ length := by
  rw [← orderOf_base, orderOf_dvd_iff_pow_eq_one]
  have cast := ZMod.intCast_zmod_eq_zero_iff_dvd (base ^ length - 1) 1000000009
  rw [Int.cast_sub, Int.cast_pow, Int.cast_one, sub_eq_zero] at cast
  exact cast.symm

theorem accumulate_append {power : Int} (reduced : power % modulus = power) (value : Int)
    (front back : List Char) : accumulate value power (front ++ back) =
      accumulate (accumulate value power front) (power * base ^ front.length % modulus) back := by
  induction front generalizing value power with
  | nil => simp [accumulate, reduced]
  | cons c rest ih =>
      have next : power * base % modulus * base ^ rest.length % modulus =
          power * base ^ (rest.length + 1) % modulus := by
        rw [pow_succ', ← Int.mul_assoc]
        exact (Int.mod_modEq (power * base) modulus).mul_right _
      rw [List.cons_append, accumulate, ih (Int.emod_emod_of_dvd _ (Int.dvd_refl _)), accumulate,
        List.length_cons, next]

theorem accumulate_hash (front back : String) (start : Int) :
    accumulate (hash front start) (base ^ front.length % modulus) back.toList =
      hash (front ++ back) start := by
  have one : (1 : Int) % modulus = 1 := by decide
  rw [hash, hash, String.toList_append, accumulate_append one, Int.one_mul, String.length_toList]

theorem hash_start_modEq (text : String) (start : Int) :
    hash text start ≡ start + hash text [ZMOD modulus] :=
  (hash_modEq text start).trans ((polynomial_modEq_hash text).add_left _)

theorem hash_hash_eq_iff {front back : String} (filled : back ≠ "") (start : Int) :
    hash back (hash front start) = hash (front ++ back) start ↔
      modulus ∣ (base ^ front.length - 1) * hash back := by
  have joined : front ++ back ≠ "" := fun empty => filled (String.append_eq_empty_iff.mp empty).2
  have difference : hash front start + base ^ front.length * hash back -
      (hash front start + hash back) = (base ^ front.length - 1) * hash back := by
    ring
  rw [← hash_emod filled, ← hash_emod joined, ← difference, ← Int.modEq_iff_dvd]
  constructor
  · intro same
    have whole : hash back (hash front start) ≡ hash (front ++ back) start [ZMOD modulus] := same
    exact (hash_start_modEq back _).symm.trans (whole.trans (hash_append_modEq front back _))
  · intro same
    exact (hash_start_modEq back _).trans (same.trans (hash_append_modEq front back _).symm)

/-- The start value is added, whatever stood in front of the text. That continues a hash exactly
if the text itself has the hash zero, or if as many characters stand in front as bring the power
back to one. What continues every hash is its value together with the power. -/
theorem hash_continued (front back : String) (start : Int) :
    hash back (hash front start) ≡ hash front start + hash back [ZMOD 1000000009] ∧
    (hash back (hash front start) = hash (front ++ back) start ↔
      hash back = 0 ∨ 1000000008 ∣ front.length) ∧
    accumulate (hash front start) (95 ^ front.length % 1000000009) back.toList =
      hash (front ++ back) start := by
  refine ⟨hash_start_modEq back _, ?_, accumulate_hash front back start⟩
  by_cases empty : back = ""
  · subst empty
    simp [hash, accumulate]
  · have prime : Prime modulus := Nat.prime_iff_prime_int.mp prime_modulus
    have zero : modulus ∣ hash back ↔ hash back = 0 := by
      rw [Int.dvd_iff_emod_eq_zero, hash_emod empty]
    rw [hash_hash_eq_iff empty, prime.dvd_mul, modulus_dvd_pow_sub_one_iff, zero, or_comm]

theorem hash_not_continued : hash "!" (hash "!") = 2 ∧ hash ("!" ++ "!") = 96 ∧
    hash "!" (hash "!") ≠ hash ("!" ++ "!") := by
  decide

end Flipbook.RollingHash
