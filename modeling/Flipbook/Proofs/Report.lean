import Flipbook.Report
import Mathlib.Data.List.Forall2

/-!
Outcomes and reports of operations that come one after the other.
-/

namespace Flipbook

namespace Fault

variable {α β : Type} {outcome : Except Fault α} {next : α → Except Fault β}

theorem bind_eq_ok_iff {value : β} : (outcome >>= next) = .ok value ↔
    ∃ given, outcome = .ok given ∧ next given = .ok value := by
  cases outcome with
  | ok given =>
      constructor
      · exact fun succeeded => ⟨given, rfl, succeeded⟩
      · rintro ⟨_, ⟨⟩, succeeded⟩
        exact succeeded
  | error fault =>
      constructor
      · exact nofun
      · rintro ⟨_, ⟨⟩, _⟩

theorem mapM_eq_ok_iff {items : List α} {values : List β} : items.mapM next = .ok values ↔
    List.Forall₂ (fun item value => next item = .ok value) items values := by
  induction items generalizing values with
  | nil =>
      rw [List.forall₂_nil_left_iff]
      exact ⟨fun ended => (Except.ok.inj ended).symm, fun ended => ended ▸ rfl⟩
  | cons item rest ih =>
      simp only [List.mapM_cons, List.forall₂_cons_left_iff, bind_eq_ok_iff, ih]
      constructor
      · rintro ⟨value, first, later, others, ⟨⟩⟩
        exact ⟨value, later, first, others, rfl⟩
      · rintro ⟨value, later, first, others, rfl⟩
        exact ⟨value, first, later, others, rfl⟩

theorem exists_mapM_iff {items : List α} :
    (∃ values, items.mapM next = .ok values) ↔ ∀ item ∈ items, ∃ value, next item = .ok value := by
  simp only [mapM_eq_ok_iff]
  induction items with
  | nil => exact ⟨fun _ => nofun, fun _ => ⟨[], .nil⟩⟩
  | cons item rest ih =>
      rw [List.forall_mem_cons, ← ih]
      constructor
      · rintro ⟨values, listed⟩
        obtain ⟨value, later, first, others, -⟩ := List.forall₂_cons_left_iff.mp listed
        exact ⟨⟨value, first⟩, later, others⟩
      · rintro ⟨⟨value, first⟩, later, others⟩
        exact ⟨value :: later, .cons first others⟩

end Fault

theorem Notice.diagnostics_append (earlier later : List Notice) :
    diagnostics (earlier ++ later) = diagnostics earlier ++ diagnostics later :=
  List.filterMap_append

theorem Notice.diagnostics_map (problems : List Diagnostic) :
    diagnostics (problems.map .diagnostic) = problems := by
  rw [diagnostics, List.filterMap_map]
  exact List.filterMap_some

namespace Report

variable {α β : Type} {report : Report α} {next : α → Report β}

@[simp] theorem outcome_bind (report : Report α) (next : α → Report β) :
    (report >>= next).outcome = report.outcome.bind fun value => (next value).outcome := by
  change (report.bind next).outcome = _
  unfold Report.bind
  cases report.outcome with
  | ok value => rfl
  | error fault => rfl

theorem exists_of_bind {value : β} (succeeded : (report >>= next).outcome = .ok value) :
    ∃ given, report.outcome = .ok given ∧ (next given).outcome = .ok value := by
  rw [outcome_bind] at succeeded
  exact Fault.bind_eq_ok_iff.mp succeeded

theorem mem_notices_bind {notice : Notice} (member : notice ∈ (report.bind next).notices) :
    notice ∈ report.notices ∨
      ∃ value, report.outcome = .ok value ∧ notice ∈ (next value).notices := by
  unfold Report.bind at member
  split at member
  next value outcome =>
      exact (List.mem_append.mp member).imp_right fun later => ⟨value, outcome, later⟩
  next => exact .inl member

end Report

end Flipbook
