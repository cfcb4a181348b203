import Flipbook.Proofs.PageCache.Builds

/-!
Closing a cache. A caller who waits for the builds closes the second pool after all of them, so that
a build is refused its loads only where a caller did not wait.
-/

namespace Flipbook.PageCache

variable {cache next first last : PageCache} {step : Step} {events : List Event}

/-- Builds end before the second pool closes, and not one of them because it closed. -/
structure Orderly (cache : PageCache) : Prop where
  closed : cache.fetchesClosed = true → cache.buildsClosed = true
  ended : cache.fetchesClosed = true → cache.AllBuilds (·.phase.isResolved = true)
  asked : cache.AllBuilds fun known => known.phase.isResolved = true → known.unasked? = none

theorem Orderly.of_create {workers : Int} {evictsFailed : Bool} {order : Groups.Order}
    {start : PageCache} (created : create workers evictsFailed order = .ok start) :
    Orderly start := by
  refine ⟨?_, fun _ => .of_create created, .of_create created⟩
  obtain ⟨-, rfl⟩ := eq_of_create created
  simp

variable [Limits]

theorem Move.buildsClosed (move : Move cache step next) (closed : cache.buildsClosed = true) :
    next.buildsClosed = true := by
  cases move with
  | close => rfl
  | _ => exact closed

theorem Move.buildsClosed_eq (move : Move cache step next) (others : step ≠ .close) :
    next.buildsClosed = cache.buildsClosed := by
  cases move with
  | close => contradiction
  | _ => rfl

theorem Move.fetchesClosed (move : Move cache step next) (closed : next.fetchesClosed = true) :
    cache.fetchesClosed = true ∨ step = .abandonFetches ∨
      (cache.buildsClosed = true ∧ next.builds = cache.builds ∧
        cache.AllBuilds (·.phase.isResolved = true)) := by
  cases move with
  | closeFetches buildsClosed opened ended =>
      refine .inr (.inr ⟨buildsClosed, rfl, ?_⟩)
      exact fun _ _ present => ended _ (List.mem_of_getElem? present)
  | abandonFetches => exact .inr (.inl rfl)
  | _ => exact .inl closed

theorem Move.ended_of_closed (sound : FetchesSound cache) (move : Move cache step next)
    (closed : cache.buildsClosed = true) (ended : cache.AllBuilds (·.phase.isResolved = true)) :
    next.AllBuilds (·.phase.isResolved = true) := by
  intro build later after
  cases move.buildAfter sound after with
  | fresh _ _ _ opened =>
      rw [closed] at opened
      contradiction
  | same present => exact ended build later present
  | changed known present changed =>
      have resolved := ended build known present
      cases phase : known.phase with
      | resolved outcome => rw [changed.continues.outcome_kept outcome phase]; rfl
      | _ => simp [phase, Phase.isResolved] at resolved

theorem BuildMove.asked_of_resolved {build : Nat} {known later : Build} (orderly : Orderly cache)
    (present : cache.builds[build]? = some known)
    (move : BuildMove cache build step known later)
    (asked : known.phase.isResolved = true → known.unasked? = none)
    (resolved : later.phase.isResolved = true) : later.unasked? = none := by
  cases move with
  | registered | informed => exact asked resolved
  | started => simp [Phase.isResolved] at resolved
  | refused running unasked closed =>
      have ended := orderly.ended closed build known present
      simp [running, Phase.isResolved] at ended
  | concluded running joined =>
      exact Build.unasked?_eq_none_of_joined (Build.joined?_eq_some_iff.mp joined)
  | asked running unasked => simp [running, Phase.isResolved] at resolved
  | begun queued =>
      rw [Build.phase_setFetch] at resolved
      rw [Build.unasked?_setFetch (by simp [queued]) (by simp)]
      exact asked resolved
  | ended running =>
      rw [Build.phase_setFetch] at resolved
      rw [Build.unasked?_setFetch (by simp [running]) (by simp)]
      exact asked resolved

theorem Orderly.move (sound : FetchesSound cache) (orderly : Orderly cache)
    (waits : step ≠ .abandonFetches) (move : Move cache step next) : Orderly next := by
  constructor
  · intro closed
    rcases move.fetchesClosed closed with before | abandoned | ⟨buildsClosed, -, -⟩
    · exact move.buildsClosed (orderly.closed before)
    · exact absurd abandoned waits
    · exact move.buildsClosed buildsClosed
  · intro closed
    rcases move.fetchesClosed closed with before | abandoned | ⟨-, same, ended⟩
    · exact move.ended_of_closed sound (orderly.closed before) (orderly.ended before)
    · exact absurd abandoned waits
    · intro build known present
      exact ended build known (same ▸ present)
  · intro build later after
    cases move.buildAfter sound after with
    | fresh _ _ _ _ _ created => simp [created, Phase.isResolved]
    | same present => exact orderly.asked build later present
    | changed known present changed =>
        exact changed.asked_of_resolved orderly present (orderly.asked build known present)

theorem Trace.orderly {workers : Int} {evictsFailed : Bool} {order : Groups.Order}
    (created : create workers evictsFailed order = .ok first) (trace : Trace first events last)
    (waits : ∀ event ∈ events, event.step ≠ .abandonFetches) : Orderly last := by
  refine trace.invariant_of_sound ?_ (.of_create created) (.of_create created)
  intro cache step next notices member sound orderly move
  exact orderly.move sound (waits _ member) move

end Flipbook.PageCache
