import Flipbook.Proofs.PageCache.Builds

/-!
Builds and their loads never wait for each other in a circle. Every move of the pools takes away
from the work that is left, and they can move as long as a build has not ended.
-/

namespace Flipbook

def Phase.work : Phase → Nat
  | .queued => 2
  | .running => 1
  | .resolved _ => 0

def Fetch.work : Fetch → Nat
  | .absent => 3
  | .queued => 2
  | .running => 1
  | .finished _ => 0

namespace Build

def work (build : Build) : Nat := build.phase.work + build.metadata.work + build.image.work

theorem work_setFetch (build : Build) (resource : Resource) (fetch : Fetch) :
    (build.setFetch resource fetch).work + (build.fetch resource).work =
      build.work + fetch.work := by
  cases resource <;> simp only [work, setFetch, Build.fetch] <;> omega

end Build

namespace PageCache

/-- Whether a move is one of the pools, which need no caller for it. -/
def Step.isOwn : Step → Bool
  | .startBuild | .askFetch _ | .startFetch | .finishFetch .. | .finishBuild _ => true
  | .request _ | .register _ | .inform _ | .evict _ | .clear | .close | .closeFetches
  | .abandonFetches => false

def totalWork (builds : List Build) : Nat :=
  builds.foldr (fun build total => build.work + total) 0

def work (cache : PageCache) : Nat := totalWork cache.builds

variable {cache next last : PageCache} {step : Step} {build : Nat} {known : Build}
  {events : List Event}

theorem work_modifyBuild_lt {change : Build → Build}
    (present : cache.builds[build]? = some known) (less : (change known).work < known.work) :
    (cache.modifyBuild build change).work < cache.work := by
  have sum : (cache.modifyBuild build change).work + known.work =
      cache.work + (change known).work := total_modify present change Build.work
  omega

variable [Limits]

theorem Move.work_lt (sound : FetchesSound cache) (move : Move cache step next)
    (own : step.isOwn = true) : next.work < cache.work := by
  cases move with
  | startBuild _ first =>
      obtain ⟨inside, queued, _⟩ := List.findIdx?_eq_some_iff_getElem.mp first
      refine work_modifyBuild_lt (List.getElem?_eq_getElem inside) ?_
      simp [Build.work, Phase.isQueued_iff.mp queued, Phase.work]
  | @askFetch build known resource present _ unasked _ =>
      refine work_modifyBuild_lt present ?_
      have sum := known.work_setFetch resource .queued
      rw [Build.fetch_of_unasked? unasked] at sum
      simp only [Fetch.work] at sum
      omega
  | refuseFetch present running _ _ =>
      refine work_modifyBuild_lt present ?_
      simp [Build.work, running, Phase.work]
  | @startFetch build known resource waiting _ queue present =>
      refine work_modifyBuild_lt present ?_
      have sum := known.work_setFetch resource .running
      have queued := (sound.mem_iff build resource).mp (queue ▸ List.mem_cons_self)
      rw [← fetchOf_of_present present, queued] at sum
      simp only [Fetch.work] at sum
      omega
  | @finishFetch build known resource result present running =>
      refine work_modifyBuild_lt present ?_
      have sum := known.work_setFetch resource (.finished result.outcome)
      rw [running] at sum
      simp only [Fetch.work] at sum
      omega
  | finishBuild present running _ =>
      refine work_modifyBuild_lt present ?_
      simp [Build.work, running, Phase.work]
  | _ => contradiction

theorem Move.work_le (sound : FetchesSound cache) (move : Move cache step next)
    (quiet : ∀ request, step ≠ .request request) : next.work ≤ cache.work := by
  have kept : ∀ {build known}, cache.builds[build]? = some known → ∀ change : Build → Build,
      (change known).work = known.work → (cache.modifyBuild build change).work ≤ cache.work := by
    intro build known present change same
    have sum : (cache.modifyBuild build change).work + known.work =
        cache.work + (change known).work := total_modify present change Build.work
    omega
  cases own : step.isOwn with
  | true => exact Nat.le_of_lt (move.work_lt sound own)
  | false =>
      cases move with
      | found | rejected | accepted => exact absurd rfl (quiet _)
      | register present | informSuccess present | informStale present
      | informDropped present => exact kept present _ rfl
      | evict | clear | close | closeFetches | abandonFetches => exact Nat.le_refl _
      | _ => contradiction

theorem Trace.countP_isOwn_le (sound : FetchesSound cache) (trace : Trace cache events last)
    (quiet : ∀ event ∈ events, ∀ request, event.step ≠ .request request) :
    events.countP (·.step.isOwn) + last.work ≤ cache.work := by
  induction trace with
  | nil => simp
  | @cons event events last moved _ ih =>
      have move := Move.of_move? moved
      have rest := ih (sound.move move) fun event later =>
        quiet event (List.mem_cons_of_mem _ later)
      rw [List.countP_cons]
      cases own : event.step.isOwn with
      | true =>
          have less := move.work_lt sound own
          simp only [if_true]
          omega
      | false =>
          have same := move.work_le sound (quiet _ List.mem_cons_self)
          simp only [Bool.false_eq_true, if_false]
          omega

theorem Trace.length_le_work (sound : FetchesSound cache) (trace : Trace cache events last)
    (own : ∀ event ∈ events, event.step.isOwn = true) :
    events.length + last.work ≤ cache.work := by
  have quiet : ∀ event ∈ events, ∀ request, event.step ≠ .request request := by
    intro event member request asked
    have moved := own event member
    rw [asked] at moved
    contradiction
  have bound := trace.countP_isOwn_le sound quiet
  rwa [List.countP_eq_length.mpr own] at bound

/-- Whether the pools can do nothing any more, not even see a load end. -/
def IsStill (cache : PageCache) : Prop := ∀ step, step.isOwn = true → cache.move? step = none

theorem IsStill.not_move (still : IsStill cache) (own : step.isOwn = true) :
    ¬ Move cache step next := by
  intro move
  obtain ⟨notices, moved⟩ := move.possible
  rw [still step own] at moved
  contradiction

theorem IsStill.not_running (still : IsStill cache)
    (present : cache.builds[build]? = some known) (resource : Resource) :
    known.fetch resource ≠ .running := by
  intro running
  have move : Move cache (.finishFetch build resource (.fail .outOfMemory)) _ :=
    .finishFetch present running
  exact still.not_move rfl move

theorem IsStill.queue_eq_nil (still : IsStill cache) (sound : FetchesSound cache)
    (workers : 0 < cache.workers) : cache.fetchQueue = [] := by
  cases queue : cache.fetchQueue with
  | nil => rfl
  | cons waiting rest =>
      obtain ⟨build, resource⟩ := waiting
      have queued := (sound.mem_iff build resource).mp (queue ▸ List.mem_cons_self)
      have idle : cache.runningFetches < 2 * cache.workers := by
        have none : ∀ resource, ∀ known ∈ cache.builds,
            ¬ (known.fetch resource).isRunning = true := by
          intro resource known member running
          obtain ⟨build, present⟩ := List.getElem?_of_mem member
          exact still.not_running present resource (Fetch.isRunning_iff.mp running)
        have metadata := List.countP_eq_zero.mpr (none .metadata)
        have image := List.countP_eq_zero.mpr (none .image)
        simp only [Build.fetch] at metadata image
        rw [runningFetches, metadata, image]
        omega
      cases present : cache.builds[build]? with
      | none => simp [fetchOf, present] at queued
      | some known => exact absurd (.startFetch idle queue present) (still.not_move rfl)

theorem IsStill.not_phase_running (still : IsStill cache) (sound : FetchesSound cache)
    (workers : 0 < cache.workers) (present : cache.builds[build]? = some known) :
    known.phase ≠ .running := by
  intro running
  have ended : ∀ resource, known.fetch resource ≠ .absent →
      ∃ outcome, known.fetch resource = .finished outcome := by
    intro resource asked
    cases fetch : known.fetch resource with
    | absent => exact absurd fetch asked
    | queued =>
        have queued := (fetchOf_of_present present resource).trans fetch
        have waiting := (sound.mem_iff build resource).mpr queued
        simp [still.queue_eq_nil sound workers] at waiting
    | running => exact absurd fetch (still.not_running present resource)
    | finished outcome => exact ⟨outcome, rfl⟩
  cases unasked : known.unasked? with
  | some resource =>
      cases closed : cache.fetchesClosed with
      | false => exact still.not_move rfl (.askFetch present running unasked closed)
      | true => exact still.not_move rfl (.refuseFetch present running unasked closed)
  | none =>
      obtain ⟨resources, joined⟩ := known.exists_joined unasked ended
      exact still.not_move rfl (.finishBuild present running (Build.joined?_eq_some_iff.mpr joined))

theorem IsStill.isResolved (still : IsStill cache) (sound : FetchesSound cache)
    (workers : 0 < cache.workers) (present : cache.builds[build]? = some known) :
    known.phase.isResolved = true := by
  have notRunning : ∀ other ∈ cache.builds, ¬ other.phase.isRunning = true := by
    intro other member running
    obtain ⟨index, found⟩ := List.getElem?_of_mem member
    exact still.not_phase_running sound workers found (Phase.isRunning_iff.mp running)
  cases phase : known.phase with
  | resolved outcome => rfl
  | running => exact absurd phase (still.not_phase_running sound workers present)
  | queued =>
      have idle : cache.runningBuilds < cache.workers := by
        rw [runningBuilds, List.countP_eq_zero.mpr notRunning]
        exact workers
      cases first : cache.builds.findIdx? (·.phase.isQueued) with
      | none =>
          have none := List.findIdx?_eq_none_iff.mp first known (List.mem_of_getElem? present)
          simp [phase, Phase.isQueued] at none
      | some waiting => exact absurd (.startBuild idle first) (still.not_move rfl)

theorem Reachable.workers_pos (reachable : Reachable cache) : 0 < cache.workers := by
  have initially : ∀ workers evictsFailed order start,
      create workers evictsFailed order = .ok start → 0 < start.workers := by
    intro workers evictsFailed order start created
    obtain ⟨positive, rfl⟩ := eq_of_create created
    exact Int.pos_iff_toNat_pos.mp positive
  exact reachable.invariant initially fun cache step next positive move =>
    move.workers_eq ▸ positive

theorem Trace.ends (reachable : Reachable cache) (trace : Trace cache events last)
    (own : ∀ event ∈ events, event.step.isOwn = true) :
    events.length ≤ cache.work ∧
      (IsStill last → last.AllBuilds (·.phase.isResolved = true)) := by
  have bound := trace.length_le_work reachable.fetchesSound own
  have after := reachable.trace trace
  exact ⟨by omega, fun still _ _ present =>
    still.isResolved after.fetchesSound after.workers_pos present⟩

end PageCache

end Flipbook
