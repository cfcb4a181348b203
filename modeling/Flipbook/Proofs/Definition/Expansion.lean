import Flipbook.Proofs.Definition.Denotation

/-!
Terms of any integers as the sequences that they stand for. A range moves by one after every
repetition and never shows its stop, and what lies beyond the frames is played and reported.
-/

namespace Flipbook.Definition

variable {start stop : Int} {place : Nat}

theorem getElem?_stepsToward (inside : place < (stop - start).natAbs) :
    (stepsToward start stop)[place]? = some (start + (stop - start).sign * place) := by
  simp only [stepsToward, List.getElem?_map, List.getElem?_range inside, Option.map_some,
    Option.some.injEq]
  by_cases ascending : start < stop
  · have forward : (stop - start).sign = 1 := Int.sign_eq_one_of_pos (by omega)
    rw [if_pos ascending, forward, Int.one_mul]
  · have backward : (stop - start).sign = -1 := Int.sign_eq_neg_one_of_neg (by omega)
    rw [if_neg ascending, backward]
    omega

theorem stop_notMem_stepsToward (start stop : Int) : stop ∉ stepsToward start stop := by
  intro member
  obtain ⟨step, inside, reached⟩ := List.mem_map.mp member
  rw [List.mem_range] at inside
  split at reached <;> omega

theorem getElem?_flatMap_replicate {repeats : Nat} (positive : 0 < repeats) (indices : List Int) :
    (indices.flatMap (List.replicate repeats))[place]? = indices[place / repeats]? := by
  induction indices generalizing place with
  | nil => simp
  | cons first rest ih =>
      rw [List.flatMap_cons, List.getElem?_append, List.length_replicate]
      by_cases here : place < repeats
      · rw [if_pos here, List.getElem?_replicate_of_lt here, Nat.div_eq_of_lt here]
        rfl
      · obtain ⟨later, rfl⟩ : ∃ later, place = later + repeats := ⟨place - repeats, by omega⟩
        rw [if_neg here, Nat.add_sub_cancel, ih, Nat.add_div_right later positive]
        rfl

namespace Term

/-- The sequence of a term in closed form: how long it is, what stands at each of its places, and
that a range leaves out its stop. -/
structure Shows (term : Term) (frames : List Int) : Prop where
  hold : term.isHold = true ↔ term.stop = -1 ∨ term.stop = term.start
  length : (frames.length : Int) =
    if term.repeats ≤ 0 then 0
    else if term.isHold then term.repeats
    else term.repeats * (term.stop - term.start).natAbs
  element : ∀ place (inside : place < frames.length), frames[place] =
    if term.isHold then term.start
    else term.start + (term.stop - term.start).sign * (place / term.repeats)
  excluded : term.isHold = false → term.stop ∉ frames

theorem frames_eq (term : Term) : term.frames =
    if term.isHold then List.replicate term.repeats.toNat term.start
    else (stepsToward term.start term.stop).flatMap (List.replicate term.repeats.toNat) := by
  unfold frames
  split
  next none =>
      have zero : term.repeats.toNat = 0 := by omega
      simp [zero]
  next => rfl

theorem getElem_frames {term : Term} (inside : place < term.frames.length) :
    term.frames[place] = if term.isHold then term.start
      else term.start + (term.stop - term.start).sign * (place / term.repeats) := by
  have length := term.length_frames
  cases hold : term.isHold with
  | true =>
      simp only [frames_eq, hold, if_true, List.getElem_replicate]
  | false =>
      rw [hold, if_neg Bool.false_ne_true] at length
      rw [length] at inside
      have positive : 0 < term.repeats.toNat := Nat.pos_of_mul_pos_right (Nat.zero_lt_of_lt inside)
      have step : place / term.repeats.toNat < (term.stop - term.start).natAbs :=
        Nat.div_lt_of_lt_mul inside
      have quotient : ((place / term.repeats.toNat : Nat) : Int) = place / term.repeats := by
        rw [Int.natCast_ediv, Int.toNat_of_nonneg (by omega)]
      refine Option.some.inj (List.getElem?_eq_getElem _ |>.symm.trans ?_)
      rw [frames_eq, hold, if_neg Bool.false_ne_true, getElem?_flatMap_replicate positive,
        getElem?_stepsToward step, quotient, if_neg Bool.false_ne_true]

theorem shows_frames (term : Term) : term.Shows term.frames where
  hold := by
    simp only [isHold, Bool.or_eq_true, decide_eq_true_eq]
    rfl
  length := by
    rw [length_frames]
    by_cases none : term.repeats ≤ 0
    · have zero : term.repeats.toNat = 0 := by omega
      simp [none, zero]
    · have whole : (term.repeats.toNat : Int) = term.repeats := Int.toNat_of_nonneg (by omega)
      rw [if_neg none]
      split
      next => exact whole
      next => rw [Int.natCast_mul, whole]
  element := fun _ inside => getElem_frames inside
  excluded := by
    intro range member
    rw [frames_eq, range, if_neg Bool.false_ne_true] at member
    obtain ⟨step, among, repeated⟩ := List.mem_flatMap.mp member
    rw [List.eq_of_mem_replicate repeated] at among
    exact stop_notMem_stepsToward _ _ among

variable [Limits]

theorem expand_cases (term : Term) :
    (term.frames.length ≤ Limits.maxItems ∧ term.expand = .ok term.frames) ∨
      (Limits.maxItems < term.frames.length ∧
        ∃ fault, term.expand = .error fault ∧ fault.IsLimit) := by
  rcases term.checkLength_cases with ⟨fits, checked⟩ | ⟨long, fault, failed, limit⟩
  · exact .inl ⟨fits, by rw [expand, checked]; rfl⟩
  · exact .inr ⟨long, fault, by rw [expand, failed]; rfl, limit⟩

end Term

section

variable [Limits]

theorem expand_of_unwritable {given : List Term} {limit index : Int} {earlier later : List Int}
    (fit : ∀ term ∈ given, term.frames.length ≤ Limits.maxItems)
    (played : playback given = earlier ++ index :: later)
    (written : ∀ former ∈ earlier, isOutside limit former = true → Text.isWritable former = true)
    (outside : isOutside limit index = true) (large : Text.isWritable index = false) :
    expand given (some limit) =
      { notices := (outsideReports (some limit) earlier).map .diagnostic
        outcome := .error .unwritable } := by
  have before : ∀ former ∈ earlier.filter (isOutside limit), Text.isWritable former = true := by
    intro former member
    obtain ⟨among, beyond⟩ := List.mem_filter.mp member
    exact written former among beyond
  rw [(expand_of_ok (forM_checkLength_of_fit fit)).2, played, reportOutside, List.filter_append,
    List.filter_cons_of_pos outside, List.takeWhile_append_of_pos before,
    List.takeWhile_cons_of_neg (by simp [large]), List.append_nil]
  simp [large, Report.bind, outsideReports]

theorem records_outsideReports (count : Option Int) (indices : List Int) :
    Diagnostic.records (outsideReports count indices) =
      .ok ((outsideReports count indices).map Diagnostic.record) := by
  have unplaced : ∀ beyond : List Int,
      (beyond.map frameOutOfRange).forM Diagnostic.checkLength = .ok () := by
    intro beyond
    induction beyond with
    | nil => rfl
    | cons index rest ih => exact ih
  unfold Diagnostic.records outsideReports
  cases count with
  | none => rfl
  | some limit =>
      rw [Option.elim_some, unplaced]
      rfl

/-- What playing terms of any integers answers and reports: everything they stand for in order, with
one report for each index beyond the frames, which a log takes as it is. Where a term has no room
nothing is reported, and the first index beyond the frames that has no text ends the reports. -/
structure Expands (given : List Term) (count : Option Int) : Prop where
  played : ArePlayable given count → expand given count =
    { notices := (outsideReports count (given.map Term.frames).flatten).map .diagnostic
      outcome := .ok (given.map Term.frames).flatten }
  logged : Diagnostic.records (outsideReports count (given.map Term.frames).flatten) =
    .ok ((outsideReports count (given.map Term.frames).flatten).map Diagnostic.record)
  overlong : ∀ term ∈ given, Limits.maxItems < term.frames.length →
    ∃ fault, fault.IsLimit ∧ expand given count = .fail fault
  unwritable : (∀ term ∈ given, term.frames.length ≤ Limits.maxItems) →
    ∀ limit ∈ count, ∀ earlier index later,
      (given.map Term.frames).flatten = earlier ++ index :: later →
      (∀ former ∈ earlier, isOutside limit former = true → Text.isWritable former = true) →
      isOutside limit index = true → Text.isWritable index = false →
      expand given count =
        { notices := (outsideReports count earlier).map .diagnostic
          outcome := .error .unwritable }

/-- Each term stands for one sequence, whatever its integers are. It is played if there is room for
it, and terms together play and report what `Expands` says. -/
theorem expand_closedForm (term : Term) (given : List Term) (count : Option Int) :
    term.Shows term.frames ∧
    ((term.frames.length ≤ Limits.maxItems ∧ term.expand = .ok term.frames) ∨
      (Limits.maxItems < term.frames.length ∧
        ∃ fault, term.expand = .error fault ∧ fault.IsLimit)) ∧
    Expands given count := by
  refine ⟨term.shows_frames, term.expand_cases, ?_⟩
  refine ⟨expand_of_playable, records_outsideReports _ _, fun other member long => ?_, ?_⟩
  · rcases forM_checkLength_cases given with ⟨fit, -⟩ | ⟨-, fault, failed, limit⟩
    · exact absurd (fit other member) (Nat.not_le_of_lt long)
    · exact ⟨fault, limit, expand_of_error failed count⟩
  · rintro fit limit ⟨⟩ earlier index later played written outside large
    exact expand_of_unwritable fit played written outside large

end

theorem expand_closedForm_of_descending :
    ArePlayable [⟨5, 3, 2⟩, ⟨-4, -1, 1⟩, ⟨0, 4, -1⟩, ⟨2, 2, 1⟩] (some 5) ∧
      expand [⟨5, 3, 2⟩, ⟨-4, -1, 1⟩, ⟨0, 4, -1⟩, ⟨2, 2, 1⟩] (some 5) =
        { notices := [.diagnostic (frameOutOfRange 5), .diagnostic (frameOutOfRange 5),
            .diagnostic (frameOutOfRange (-4))]
          outcome := .ok [5, 5, 4, 4, -4, 2] } := by
  have playable : ArePlayable [⟨5, 3, 2⟩, ⟨-4, -1, 1⟩, ⟨0, 4, -1⟩, ⟨2, 2, 1⟩] (some 5) := by
    refine ⟨by decide, ?_⟩
    rintro _ ⟨⟩
    decide +kernel
  exact ⟨playable, (expand_closedForm ⟨5, 3, 2⟩ _ _).2.2.played playable⟩

end Flipbook.Definition
