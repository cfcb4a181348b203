import Flipbook.Definition.Playback
import Flipbook.Proofs.Report

/-!
Limits of playback. Indices are refused only where a term plays more of them than there is room for,
or where one outside the frames is too large to be written into its report.
-/

namespace Flipbook

/-- Faults that stand for a limit of the machine and not for a mistake in what was asked. -/
def Fault.IsLimit : Fault → Prop
  | .digitLimit _ | .unwritable | .overlongRepetition | .outOfMemory => True
  | _ => False

theorem Capacity.check_cases [Limits] {overlong : Fault} (limit : overlong.IsLimit) (length : Nat) :
    (length ≤ Limits.maxItems ∧ check overlong length = .ok ()) ∨
      (Limits.maxItems < length ∧
        ∃ fault, check overlong length = .error fault ∧ fault.IsLimit) := by
  have word : ¬ (length : Int) < -maxLength - 1 := by
    unfold maxLength
    omega
  have room := Limits.maxItems_le
  by_cases beyond : (maxLength : Int) < length
  · refine .inr ⟨by omega, overlong, ?_, limit⟩
    simp [check, beyond]
  · by_cases large : Limits.maxItems < length
    · refine .inr ⟨large, .outOfMemory, ?_, trivial⟩
      simp [check, word, beyond, large]
    · refine .inl ⟨by omega, ?_⟩
      simp [check, word, beyond, large]

namespace Definition

namespace Term

theorem length_stepsToward (start stop : Int) :
    (stepsToward start stop).length = (stop - start).natAbs := by
  simp [stepsToward]

theorem length_flatMap_replicate (indices : List Int) (repeats : Nat) :
    (indices.flatMap (List.replicate repeats)).length = repeats * indices.length := by
  induction indices with
  | nil => simp
  | cons first rest ih =>
      rw [List.flatMap_cons, List.length_append, ih, List.length_replicate, List.length_cons,
        Nat.mul_succ]
      omega

theorem length_frames (term : Term) : term.frames.length =
    if term.isHold then term.repeats.toNat
    else term.repeats.toNat * (term.stop - term.start).natAbs := by
  unfold frames
  by_cases negative : term.repeats ≤ 0
  · have none : term.repeats.toNat = 0 := by omega
    simp [negative, none]
  · cases hold : term.isHold with
    | true => simp [negative]
    | false => simp only [negative, if_false, Bool.false_eq_true, length_flatMap_replicate,
        length_stepsToward]

theorem repeats_le_length (term : Term) : term.repeats.toNat ≤ term.frames.length := by
  rw [length_frames]
  cases hold : term.isHold with
  | true => exact Nat.le_refl _
  | false =>
      have moves : 1 ≤ (term.stop - term.start).natAbs := by
        simp only [isHold, Bool.or_eq_false_iff, decide_eq_false_iff_not] at hold
        omega
      have product := Nat.mul_le_mul_left term.repeats.toNat moves
      rwa [Nat.mul_one] at product

variable [Limits]

theorem checkLength_cases (term : Term) :
    (term.frames.length ≤ Limits.maxItems ∧ term.checkLength = .ok ()) ∨
      (Limits.maxItems < term.frames.length ∧
        ∃ fault, term.checkLength = .error fault ∧ fault.IsLimit) := by
  have length := term.length_frames
  have least := term.repeats_le_length
  by_cases negative : term.repeats ≤ 0
  · have none : term.frames.length = 0 := by simp [frames, negative]
    exact .inl ⟨by omega, by simp [checkLength, negative]⟩
  · obtain ⟨repeats, whole⟩ : ∃ repeats : Nat, term.repeats = repeats :=
      ⟨term.repeats.toNat, by omega⟩
    rw [whole, Int.toNat_natCast] at length least
    have unfolded : term.checkLength = (Capacity.check .overlongRepetition repeats).bind fun _ =>
        if term.isHold then .ok ()
        else Capacity.check .outOfMemory (repeats * (term.stop - term.start).natAbs : Nat) := by
      rw [checkLength, if_neg negative, whole]
      cases term.isHold with
      | true =>
          cases Capacity.check .overlongRepetition repeats <;> rfl
      | false => rfl
    rw [unfolded]
    have overlong : Fault.IsLimit .overlongRepetition := trivial
    rcases Capacity.check_cases overlong repeats with
      ⟨fits, checked⟩ | ⟨large, fault, failed, limit⟩
    · rw [checked]
      cases hold : term.isHold with
      | true =>
          rw [hold, if_pos rfl] at length
          exact .inl ⟨by omega, rfl⟩
      | false =>
          rw [hold, if_neg Bool.false_ne_true] at length
          rw [length]
          exact Capacity.check_cases (show Fault.IsLimit .outOfMemory from trivial) _
    · rw [failed]
      exact .inr ⟨by omega, fault, rfl, limit⟩

end Term

variable [Limits]

theorem forM_checkLength_cases (terms : List Term) :
    ((∀ term ∈ terms, term.frames.length ≤ Limits.maxItems) ∧
        terms.forM Term.checkLength = .ok ()) ∨
      ((∃ term ∈ terms, Limits.maxItems < term.frames.length) ∧
        ∃ fault, terms.forM Term.checkLength = .error fault ∧ fault.IsLimit) := by
  induction terms with
  | nil => exact .inl ⟨by simp, rfl⟩
  | cons first rest ih =>
      rw [show (first :: rest).forM Term.checkLength =
        first.checkLength.bind fun _ => rest.forM Term.checkLength from rfl]
      rcases first.checkLength_cases with ⟨fits, checked⟩ | ⟨long, fault, failed, limit⟩
      · rw [checked]
        rcases ih with ⟨fit, rested⟩ | ⟨⟨term, member, long⟩, failed⟩
        · exact .inl ⟨List.forall_mem_cons.mpr ⟨fits, fit⟩, rested⟩
        · exact .inr ⟨⟨term, List.mem_cons_of_mem _ member, long⟩, failed⟩
      · rw [failed]
        exact .inr ⟨⟨first, List.mem_cons_self, long⟩, fault, rfl, limit⟩

theorem forM_checkLength_of_fit {terms : List Term}
    (fit : ∀ term ∈ terms, term.frames.length ≤ Limits.maxItems) :
    terms.forM Term.checkLength = .ok () := by
  rcases forM_checkLength_cases terms with ⟨-, checked⟩ | ⟨⟨term, member, long⟩, -⟩
  · exact checked
  · exact absurd (fit term member) (Nat.not_le_of_lt long)

theorem eq_frameOutOfRange_of_mem_expand {given : List Term} {count : Option Int}
    {notice : Notice} (member : notice ∈ (expand given count).notices) :
    ∃ index, notice = .diagnostic (frameOutOfRange index) := by
  rcases Report.mem_notices_bind member with checked | ⟨-, -, played⟩
  · exact absurd checked List.not_mem_nil
  · cases count with
    | none => exact absurd played List.not_mem_nil
    | some limit =>
        rcases Report.mem_notices_bind played with outside | ⟨-, -, nothing⟩
        · obtain ⟨index, -, rfl⟩ := List.mem_map.mp outside
          exact ⟨index, rfl⟩
        · exact absurd nothing List.not_mem_nil

theorem outcome_compile (definition : String) (count : Option Int) :
    (compile definition count).outcome = (expand (terms definition) count).outcome := rfl

theorem diagnostics_compile (definition : String) (count : Option Int) :
    Notice.diagnostics (compile definition count).notices = termDiagnostics definition ++
      Notice.diagnostics (expand (terms definition) count).notices := by
  rw [compile, Report.diagnoseAll, Report.bind, Notice.diagnostics_append, Notice.diagnostics_map]

/-- Whether a definition plays more than fits, on a group with `count` members. -/
inductive IsUnplayable (definition : String) (count : Int) : Prop
  | overlong (term : Term) (member : term ∈ terms definition)
      (long : Limits.maxItems < term.frames.length)
  | unwritable (index : Int) (played : index ∈ playback (terms definition))
      (outside : isOutside count index = true) (large : Text.isWritable index = false)

theorem compile_cases (definition : String) (count : Int) :
    (¬ IsUnplayable definition count ∧
        (compile definition (some count)).outcome = .ok (playback (terms definition))) ∨
      (IsUnplayable definition count ∧
        ∃ fault, (compile definition (some count)).outcome = .error fault ∧ fault.IsLimit) := by
  rcases forM_checkLength_cases (terms definition) with
    ⟨fit, checked⟩ | ⟨⟨term, member, long⟩, fault, failed, limit⟩
  · by_cases writable :
      ((playback (terms definition)).filter (isOutside count)).all Text.isWritable = true
    · refine .inl ⟨?_, ?_⟩
      · intro unplayable
        cases unplayable with
        | overlong term member long =>
            have fits := fit term member
            omega
        | unwritable index played outside large =>
            have written := List.all_eq_true.mp writable index
              (List.mem_filter.mpr ⟨played, outside⟩)
            simp [large] at written
      · simp [compile, expand, reportOutside, checked, writable, Report.bind, Report.diagnoseAll,
          Report.ofExcept, Report.ok]
    · refine .inr ⟨?_, .unwritable, ?_, trivial⟩
      · rw [Bool.not_eq_true, List.all_eq_false] at writable
        obtain ⟨index, member, large⟩ := writable
        obtain ⟨played, outside⟩ := List.mem_filter.mp member
        exact .unwritable index played outside (by simpa using large)
      · simp [compile, expand, reportOutside, checked, writable, Report.bind, Report.diagnoseAll,
          Report.ofExcept]
  · refine .inr ⟨.overlong term member long, fault, ?_, limit⟩
    simp [compile, expand, failed, Report.bind, Report.diagnoseAll, Report.ofExcept]

end Definition

end Flipbook
