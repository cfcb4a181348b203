import Flipbook.Proofs.Definition.Denotation
import Flipbook.Proofs.Page.Resolution
import Flipbook.Proofs.Report
import Flipbook.Proofs.Value

/-!
Range queries on the frames of a page. They step as a definition does, they are answered unless an
end has no text or the range no room, and what they report depends on their ends alone.
-/

namespace Flipbook

theorem Capacity.checkRange_cases [Limits] (width : Nat) :
    (width ≤ Limits.maxItems ∧ check .overlongRange width = .ok ()) ∨
      (¬ width ≤ Limits.maxItems ∧
        (check .overlongRange width = .error .overlongRange ∨
          check .overlongRange width = .error .outOfMemory)) := by
  have word : ¬ (width : Int) < -maxLength - 1 := by
    unfold maxLength
    omega
  have room := Limits.maxItems_le
  by_cases beyond : (maxLength : Int) < width
  · refine .inr ⟨by omega, .inl ?_⟩
    simp [check, beyond]
  · by_cases large : Limits.maxItems < width
    · exact .inr ⟨by omega, .inr (by simp [check, word, beyond, large])⟩
    · exact .inl ⟨by omega, by simp [check, word, beyond, large]⟩

namespace Page

open Definition (Term isOutside within noStop playback)

variable {page : Page} {start stop : Int}

def HasIndex (page : Page) (index : Int) : Prop := 0 ≤ index ∧ index < page.count

instance (page : Page) (index : Int) : Decidable (page.HasIndex index) :=
  inferInstanceAs (Decidable (0 ≤ index ∧ index < page.count))

def HasText (start stop : Int) : Prop :=
  Text.isWritable start = true ∧ Text.isWritable stop = true

instance (start stop : Int) : Decidable (HasText start stop) :=
  inferInstanceAs (Decidable (Text.isWritable start = true ∧ Text.isWritable stop = true))

theorem isOutside_iff {index : Int} :
    isOutside page.count index = true ↔ ¬ page.HasIndex index := by
  rw [HasIndex, ← Definition.isOutside_eq_false_iff, Bool.not_eq_false]

theorem mem_rangeIndices_iff {index : Int} : index ∈ rangeIndices start stop ↔
    (start = stop ∧ index = start) ∨ (start ≤ index ∧ index < stop) ∨
      (stop < index ∧ index ≤ start) := by
  unfold rangeIndices
  split
  next same =>
      rw [List.mem_singleton]
      omega
  next different =>
      simp only [stepsToward, List.mem_map, List.mem_range]
      constructor
      · rintro ⟨step, inside, rfl⟩
        split <;> omega
      · intro between
        refine ⟨(index - start).natAbs, by omega, ?_⟩
        split <;> omega

/-- A range steps as a term does that shows each of its frames once. -/
theorem rangeIndices_eq_frames (stops : stop ≠ noStop) :
    rangeIndices start stop = Term.frames ⟨start, stop, 1⟩ := by
  have once : ∀ indices : List Int, indices.flatMap (List.replicate 1) = indices := by
    intro indices
    induction indices with
    | nil => rfl
    | cons index rest ih => rw [List.flatMap_cons, ih, List.replicate_one, List.singleton_append]
  unfold rangeIndices Term.frames Term.isHold
  by_cases same : start = stop
  · subst same
    simp
  · simp [same, Ne.symm same, stops, once]

theorem isWritable_of_natAbs_le {index limit : Int} (le : index.natAbs ≤ limit.natAbs)
    (writable : Text.isWritable limit = true) : Text.isWritable index = true := by
  unfold Text.isWritable at *
  rw [decide_eq_true_eq] at *
  exact Nat.lt_of_le_of_lt le writable

def rangeText (first last : Nat) : String := toString first ++ "-" ++ toString last

theorem read_rangeText (first last : Nat) :
    Definition.terms (rangeText first last) = [⟨first, last, 1⟩] ∧
      Definition.termDiagnostics (rangeText first last) = [] := by
  let written : Definition.WrittenDefinition :=
    { first := { gap := 0, start := .ofNat first, stop := some (0, 0, .ofNat last) } }
  have text : written.text = rangeText first last := by
    refine String.toList_inj.mp ?_
    simp [written, rangeText, Definition.WrittenDefinition.text, Definition.WrittenDefinition.links,
      Definition.WrittenTerm.links, Definition.Link.chars, Definition.spaces, Definition.Mark.char,
      Definition.Spelling.ofNat]
  obtain ⟨read, quiet⟩ := written.read_text
  rw [text] at read quiet
  refine ⟨?_, quiet⟩
  rw [read]
  simp [written, Definition.WrittenDefinition.terms, Definition.WrittenTerm.term,
    Definition.Spelling.value_ofNat]

theorem playback_rangeText (first last : Nat) :
    playback (Definition.terms (rangeText first last)) = rangeIndices first last := by
  have stops : (last : Int) ≠ noStop := by
    unfold noStop
    omega
  rw [(read_rangeText first last).1, playback, List.flatMap_singleton, rangeIndices_eq_frames stops]

theorem range_filter_lt (count width : Nat) :
    (List.range width).filter (· < count) = List.range (min width count) := by
  induction width with
  | zero => rw [Nat.zero_min]; rfl
  | succ width ih =>
      rw [List.range_succ, List.filter_append, ih]
      by_cases less : width < count
      · rw [Nat.min_eq_left (Nat.le_of_lt less), Nat.min_eq_left less, List.range_succ]
        simp [less]
      · rw [Nat.min_eq_right (by omega), Nat.min_eq_right (by omega)]
        simp [less]

theorem within_map_natCast (count : Nat) (places : List Nat) :
    within count (places.map fun place : Nat => (place : Int)) = places.filter (· < count) := by
  induction places with
  | nil => rfl
  | cons place rest ih =>
      rw [List.map_cons]
      by_cases less : place < count
      · have inside : isOutside count (place : Int) = false :=
          Definition.isOutside_eq_false_iff.mpr (by omega)
        rw [Definition.within_cons_of_inside inside, ih,
          List.filter_cons_of_pos (by simpa using less), Int.toNat_natCast]
      · have outside : isOutside count (place : Int) = true := by
          rw [← Bool.not_eq_false, Definition.isOutside_eq_false_iff]
          omega
        rw [Definition.within_cons_of_outside outside, ih,
          List.filter_cons_of_neg (by simpa using less)]

theorem stepsToward_noStop (first : Nat) :
    stepsToward first noStop =
      (List.range (first + 1)).reverse.map fun place : Nat => (place : Int) := by
  have width : (noStop - first).natAbs = first + 1 := by
    unfold noStop
    omega
  have falls : ¬ (first : Int) < noStop := by
    unfold noStop
    omega
  rw [stepsToward, width]
  refine List.ext_getElem (by simp) fun step inside _ => ?_
  rw [List.length_map, List.length_range] at inside
  simp only [List.getElem_map, List.getElem_reverse, List.getElem_range, List.length_range,
    if_neg falls]
  omega

theorem within_rangeIndices_noStop (count : Nat) (start : Int) :
    within count (rangeIndices start noStop) =
      if start < 0 then [] else (List.range (min (start.toNat + 1) count)).reverse := by
  split
  next negative =>
      refine List.eq_nil_iff_forall_not_mem.mpr fun place member => ?_
      have between := mem_rangeIndices_iff.mp (Definition.mem_within_iff.mp member).2
      unfold noStop at between
      omega
  next natural =>
      obtain ⟨first, rfl⟩ := Int.eq_ofNat_of_zero_le (Int.not_lt.mp natural)
      have moves : (first : Int) ≠ noStop := by
        unfold noStop
        omega
      rw [rangeIndices, if_neg moves, stepsToward_noStop, within_map_natCast,
        List.filter_reverse, range_filter_lt, Int.toNat_natCast]

/-- What a range leaves out lies beyond one of its ends, except that the stop itself is no part of
it. -/
theorem not_hasIndex_ends_iff : ¬ (page.HasIndex start ∧ page.HasIndex stop) ↔
    (∃ index ∈ rangeIndices start stop, ¬ page.HasIndex index) ∨
      (page.HasIndex start ∧ (stop = -1 ∨ stop = page.count)) := by
  simp only [mem_rangeIndices_iff, HasIndex]
  constructor
  · intro outside
    by_cases starts : 0 ≤ start ∧ start < page.count
    · by_cases beside : stop = -1 ∨ stop = page.count
      · exact .inr ⟨starts, beside⟩
      · rcases Int.lt_or_le stop 0 with below | natural
        · exact .inl ⟨-1, by omega, by omega⟩
        · exact .inl ⟨page.count, by omega, by omega⟩
    · exact .inl ⟨start, by omega, starts⟩
  · rintro (⟨index, between, outside⟩ | ⟨starts, beside⟩)
    · omega
    · omega

variable [Limits]

def rangeAnswer (page : Page) (start stop : Int) : Except Fault (List Placed) :=
  (Capacity.check .overlongRange (stop - start).natAbs).map fun _ =>
    page.framesAt (rangeIndices start stop)

theorem byIndices_eq (page : Page) (start stop : Int) : page.byIndices start stop =
    if page.HasIndex start ∧ page.HasIndex stop then .ofExcept (page.rangeAnswer start stop)
    else if HasText start stop then
      (Report.diagnose (rangeOutOfBounds (toString start) (toString stop))).bind fun _ =>
        .ofExcept (page.rangeAnswer start stop)
    else .fail .unwritable := by
  have answered : (do
      Report.ofExcept (Capacity.check .overlongRange (stop - start).natAbs)
      pure (page.framesAt (rangeIndices start stop)) : Report (List Placed)) =
        .ofExcept (page.rangeAnswer start stop) := by
    unfold rangeAnswer
    cases Capacity.check .overlongRange (stop - start).natAbs <;> rfl
  have outside : (isOutside page.count start || isOutside page.count stop) = true ↔
      ¬ (page.HasIndex start ∧ page.HasIndex stop) := by
    rw [Bool.or_eq_true, isOutside_iff, isOutside_iff, Decidable.not_and_iff_or_not]
  unfold byIndices
  by_cases inside : page.HasIndex start ∧ page.HasIndex stop
  · rw [if_neg (mt outside.mp (not_not_intro inside)), if_pos inside, ← answered]
  · rw [if_pos (outside.mpr inside), if_neg inside, Value.written_int, Value.written_int,
      ← answered]
    by_cases first : Text.isWritable start = true
    · by_cases last : Text.isWritable stop = true
      · have text : HasText start stop := ⟨first, last⟩
        rw [if_pos first, if_pos last, if_pos text]
        rfl
      · have silent : ¬ HasText start stop := fun text => last text.2
        rw [if_pos first, if_neg last, if_neg silent]
        rfl
    · have silent : ¬ HasText start stop := fun text => first text.1
      rw [if_neg first, if_neg silent]
      rfl

/-- Whether a range query has no answer, because it is to be reported and an end has no text, or
because no list has room for its indices. -/
inductive IsUnanswerable (page : Page) (start stop : Int) : Prop
  | wordless (outside : ¬ (page.HasIndex start ∧ page.HasIndex stop))
      (silent : ¬ HasText start stop)
  | overlong (long : ¬ (stop - start).natAbs ≤ Limits.maxItems)

theorem rangeAnswer_cases (page : Page) (start stop : Int) :
    ((stop - start).natAbs ≤ Limits.maxItems ∧
        page.rangeAnswer start stop = .ok (page.framesAt (rangeIndices start stop))) ∨
      (¬ (stop - start).natAbs ≤ Limits.maxItems ∧
        ∃ fault, page.rangeAnswer start stop = .error fault) := by
  unfold rangeAnswer
  rcases Capacity.checkRange_cases (stop - start).natAbs with
    ⟨fits, checked⟩ | ⟨long, checked | checked⟩
  · exact .inl ⟨fits, by rw [checked]; rfl⟩
  · exact .inr ⟨long, .overlongRange, by rw [checked]; rfl⟩
  · exact .inr ⟨long, .outOfMemory, by rw [checked]; rfl⟩

theorem outcome_byIndices (page : Page) (start stop : Int) :
    (page.byIndices start stop).outcome =
      if (page.HasIndex start ∧ page.HasIndex stop) ∨ HasText start stop then
        page.rangeAnswer start stop
      else .error .unwritable := by
  rw [byIndices_eq]
  by_cases inside : page.HasIndex start ∧ page.HasIndex stop
  · rw [if_pos inside, if_pos (.inl inside)]
    rfl
  · rw [if_neg inside]
    by_cases text : HasText start stop
    · rw [if_pos text, if_pos (.inr text)]
      rfl
    · rw [if_neg text, if_neg (not_or.mpr ⟨inside, text⟩)]
      rfl

theorem notices_byIndices (page : Page) (start stop : Int) :
    (page.byIndices start stop).notices =
      if HasText start stop ∧ ¬ (page.HasIndex start ∧ page.HasIndex stop) then
        [.diagnostic (rangeOutOfBounds (toString start) (toString stop))]
      else [] := by
  rw [byIndices_eq]
  by_cases inside : page.HasIndex start ∧ page.HasIndex stop
  · rw [if_pos inside, if_neg fun both => both.2 inside]
    rfl
  · rw [if_neg inside]
    by_cases text : HasText start stop
    · rw [if_pos text, if_pos ⟨text, inside⟩]
      rfl
    · rw [if_neg text, if_neg fun both => text both.1]
      rfl

theorem byIndices_cases (page : Page) (start stop : Int) :
    (¬ page.IsUnanswerable start stop ∧
        (page.byIndices start stop).outcome =
          .ok (page.framesAt (rangeIndices start stop))) ∨
      (page.IsUnanswerable start stop ∧
        ∃ fault, (page.byIndices start stop).outcome = .error fault) := by
  rw [outcome_byIndices]
  by_cases sayable : (page.HasIndex start ∧ page.HasIndex stop) ∨ HasText start stop
  · rw [if_pos sayable]
    rcases page.rangeAnswer_cases start stop with ⟨fits, answered⟩ | ⟨long, failed⟩
    · refine .inl ⟨?_, answered⟩
      rintro (⟨outside, silent⟩ | ⟨long⟩)
      · exact sayable.elim outside silent
      · exact long fits
    · exact .inr ⟨.overlong long, failed⟩
  · rw [if_neg sayable]
    obtain ⟨outside, silent⟩ := not_or.mp sayable
    exact .inr ⟨.wordless outside silent, .unwritable, rfl⟩

theorem length_frames_range_le {first last : Nat}
    (fits : ((last : Int) - first).natAbs ≤ Limits.maxItems) :
    (Term.frames ⟨first, last, 1⟩).length ≤ Limits.maxItems := by
  have once : (1 : Int).toNat = 1 := rfl
  rw [Term.length_frames, once, Nat.one_mul]
  split
  next => exact Limits.maxItems_pos
  next => exact fits

theorem outcome_compile_rangeText {first last : Nat}
    (answerable : ¬ page.IsUnanswerable first last) {count : Option Int}
    (counted : ∀ limit ∈ count, limit = page.count) :
    (Definition.compile (rangeText first last) count).outcome = .ok (rangeIndices first last) := by
  have fits : ((last : Int) - first).natAbs ≤ Limits.maxItems :=
    Decidable.byContradiction fun long => answerable (.overlong long)
  have roomy : ∀ term ∈ Definition.terms (rangeText first last),
      term.frames.length ≤ Limits.maxItems := by
    rw [(read_rangeText first last).1]
    exact List.forall_mem_singleton.mpr (length_frames_range_le fits)
  rw [← playback_rangeText]
  cases count with
  | none => exact (Definition.compile_none_iff _).mpr roomy
  | some limit =>
      obtain rfl := counted limit rfl
      rcases Definition.compile_cases (rangeText first last) page.count with
        ⟨-, compiled⟩ | ⟨unplayable, -⟩
      · exact compiled
      · cases unplayable with
        | overlong term member long => exact absurd (roomy term member) (Nat.not_le_of_lt long)
        | unwritable index played outside large =>
            rw [playback_rangeText, mem_rangeIndices_iff] at played
            rw [isOutside_iff] at outside
            have text : HasText first last := by
              refine Decidable.byContradiction fun silent => answerable (.wordless ?_ silent)
              unfold HasIndex at outside ⊢
              omega
            rcases Nat.le_total first last with rises | falls
            · have writable : Text.isWritable index = true :=
                isWritable_of_natAbs_le (by omega) text.2
              exact absurd (large.symm.trans writable) Bool.false_ne_true
            · have writable : Text.isWritable index = true :=
                isWritable_of_natAbs_le (by omega) text.1
              exact absurd (large.symm.trans writable) Bool.false_ne_true

structure AnswersRange (page : Page) (start stop : Int) : Prop where
  answered_iff : (∃ answer, (page.byIndices start stop).outcome = .ok answer) ↔
    ¬ page.IsUnanswerable start stop
  frames : ∀ answer, (page.byIndices start stop).outcome = .ok answer →
    ∀ placed ∈ answer, page.frames[placed.position]? = some placed.frame
  positions : ∀ answer, (page.byIndices start stop).outcome = .ok answer → stop ≠ noStop →
    answer.map (·.position) = within page.count (Term.frames ⟨start, stop, 1⟩)
  positions_noStop : ∀ answer, (page.byIndices start stop).outcome = .ok answer → stop = noStop →
    answer.map (·.position) =
      if start < 0 then [] else (List.range (min (start.toNat + 1) page.count)).reverse
  compiled : ∀ first last : Nat, start = first → stop = last →
    ¬ page.IsUnanswerable start stop →
      ∀ count : Option Int, (∀ limit ∈ count, limit = page.count) → ∃ indices answer,
        (Definition.compile (rangeText first last) count).outcome = .ok indices ∧
          (page.byIndices start stop).outcome = .ok answer ∧
          answer.map (·.position) = within page.count indices
  single : (page.byIndices start stop).notices.length ≤ 1
  reported : HasText start stop → (∃ index ∈ rangeIndices start stop, ¬ page.HasIndex index) →
    (page.byIndices start stop).notices =
      [.diagnostic (rangeOutOfBounds (toString start) (toString stop))]

theorem outcome_byIndices_eq_ok_iff {answer : List Placed} :
    (page.byIndices start stop).outcome = .ok answer ↔
      ¬ page.IsUnanswerable start stop ∧ answer = page.framesAt (rangeIndices start stop) := by
  rcases page.byIndices_cases start stop with ⟨answerable, answered⟩ | ⟨unanswerable, fault, failed⟩
  · rw [answered, Except.ok.injEq, eq_comm]
    exact (and_iff_right answerable).symm
  · rw [failed]
    exact iff_of_false nofun fun both => both.1 unanswerable

/-- A range query steps as a definition does, and reports once what it leaves out. -/
theorem byIndices_answersRange (page : Page) (start stop : Int) :
    AnswersRange page start stop := by
  constructor
  · simp [outcome_byIndices_eq_ok_iff]
  · intro answer answered placed member
    obtain ⟨-, rfl⟩ := outcome_byIndices_eq_ok_iff.mp answered
    exact frame_of_mem_framesAt member
  · intro answer answered stops
    obtain ⟨-, rfl⟩ := outcome_byIndices_eq_ok_iff.mp answered
    rw [positions_framesAt, rangeIndices_eq_frames stops]
  · rintro answer answered rfl
    obtain ⟨-, rfl⟩ := outcome_byIndices_eq_ok_iff.mp answered
    rw [positions_framesAt, within_rangeIndices_noStop]
  · rintro first last rfl rfl answerable count counted
    exact ⟨_, _, outcome_compile_rangeText answerable counted,
      outcome_byIndices_eq_ok_iff.mpr ⟨answerable, rfl⟩, positions_framesAt page _⟩
  · rw [notices_byIndices]
    split <;> simp
  · intro text leavesOut
    rw [notices_byIndices, if_pos ⟨text, not_hasIndex_ends_iff.mpr (.inl leavesOut)⟩]

/-- A query is reported where its ends have texts and it leaves an index out, and also where nothing
is left out but its stop is the place next to the frames. -/
theorem byIndices_reports_iff (page : Page) (start stop : Int) :
    ((∃ problem, .diagnostic problem ∈ (page.byIndices start stop).notices ∧
        problem.code = .frameOutOfRange) ↔
      HasText start stop ∧ ((∃ index ∈ rangeIndices start stop, ¬ page.HasIndex index) ∨
        (page.HasIndex start ∧ (stop = -1 ∨ stop = page.count)))) ∧
    (page.HasIndex start → stop = -1 ∨ stop = page.count →
      ∀ index ∈ rangeIndices start stop, page.HasIndex index) := by
  constructor
  · rw [← not_hasIndex_ends_iff, notices_byIndices]
    split
    next reported =>
        refine iff_of_true ⟨_, List.mem_singleton_self _, rfl⟩ reported
    next silent =>
        refine iff_of_false ?_ silent
        rintro ⟨problem, member, -⟩
        contradiction
  · intro starts beside index member
    have between := mem_rangeIndices_iff.mp member
    unfold HasIndex at *
    omega

end Page

end Flipbook
