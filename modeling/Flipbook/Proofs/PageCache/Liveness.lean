import Flipbook.Proofs.PageCache.Progress

/-!
The two pools never wait for each other. As long as a build has not ended one of their workers can
move, each move leaves less work than there was, and so all builds end.
-/

namespace Flipbook.PageCache

section

variable [Limits]

/-- Whether a worker can move: the next build or the next load begins, a load that runs ends in any
way, or a build that runs and waits for no load goes on. -/
inductive Advances (cache : PageCache) : Prop
  | buildBegins (possible : (cache.move? .startBuild).isSome)
  | loadBegins (possible : (cache.move? .startFetch).isSome)
  | loadEnds (build : Nat) (resource : Resource)
      (possible : ∀ result, (cache.move? (.finishFetch build resource result)).isSome)
  | buildAsks (build : Nat) (possible : (cache.move? (.askFetch build)).isSome)
  | buildEnds (build : Nat) (possible : (cache.move? (.finishBuild build)).isSome)

variable {cache next first last : PageCache} {step : Step} {events : List Event}

theorem Move.isSome (move : Move cache step next) : (cache.move? step).isSome := by
  obtain ⟨notices, moved⟩ := move.possible
  rw [moved]
  rfl

theorem Move.advances (move : Move cache step next) (own : step.isOwn = true) :
    Advances cache := by
  cases move with
  | startBuild idle first => exact .buildBegins (Move.startBuild idle first).isSome
  | askFetch present running unasked opened =>
      exact .buildAsks _ (Move.askFetch present running unasked opened).isSome
  | refuseFetch present running unasked closed =>
      exact .buildAsks _ (Move.refuseFetch present running unasked closed).isSome
  | startFetch idle queue present => exact .loadBegins (Move.startFetch idle queue present).isSome
  | finishFetch present running =>
      exact .loadEnds _ _ fun _ => (Move.finishFetch present running).isSome
  | finishBuild present running joined =>
      exact .buildEnds _ (Move.finishBuild present running joined).isSome
  | _ => contradiction

theorem IsStill.of_not_advances (stuck : ¬ Advances cache) : IsStill cache := by
  intro step own
  cases moved : cache.move? step with
  | none => rfl
  | some result => exact absurd ((Move.of_move? moved).advances own) stuck

theorem Reachable.isResolved_of_not_advances (reachable : Reachable cache)
    (stuck : ¬ Advances cache) : cache.AllBuilds (·.phase.isResolved = true) :=
  fun _ _ present => (IsStill.of_not_advances stuck).isResolved reachable.fetchesSound
    reachable.workers_pos present

theorem Advances.exists_move (advances : Advances cache) :
    ∃ step next notices, step.isOwn = true ∧ cache.move? step = some (next, notices) := by
  have moves : ∀ step : Step, step.isOwn = true → (cache.move? step).isSome →
      ∃ step next notices, step.isOwn = true ∧ cache.move? step = some (next, notices) := by
    intro step own possible
    obtain ⟨⟨next, notices⟩, moved⟩ := Option.isSome_iff_exists.mp possible
    exact ⟨step, next, notices, own, moved⟩
  cases advances with
  | buildBegins possible => exact moves .startBuild rfl possible
  | loadBegins possible => exact moves .startFetch rfl possible
  | loadEnds build resource possible =>
      exact moves (.finishFetch build resource (.fail .outOfMemory)) rfl (possible _)
  | buildAsks build possible => exact moves (.askFetch build) rfl possible
  | buildEnds build possible => exact moves (.finishBuild build) rfl possible

theorem Reachable.exists_still (reachable : Reachable cache) :
    ∃ events last, Trace cache events last ∧ (∀ event ∈ events, event.step.isOwn = true) ∧
      IsStill last := by
  induction work : cache.work using Nat.strongRecOn generalizing cache with
  | ind measure ih =>
      by_cases advances : Advances cache
      · obtain ⟨step, next, notices, own, moved⟩ := advances.exists_move
        have less := (Move.of_move? moved).work_lt reachable.fetchesSound own
        obtain ⟨events, last, trace, owns, still⟩ :=
          ih next.work (by omega) (reachable.trace (.step moved (.nil _))) rfl
        exact ⟨_, last, .step moved trace, List.forall_mem_cons.mpr ⟨own, owns⟩, still⟩
      · exact ⟨[], cache, .nil cache, List.forall_mem_nil _, .of_not_advances advances⟩

theorem Reachable.settles (reachable : Reachable cache) :
    ∃ events last, Trace cache events last ∧ (∀ event ∈ events, event.step.isOwn = true) ∧
      last.AllBuilds (·.phase.isResolved = true) := by
  obtain ⟨events, last, trace, own, still⟩ := reachable.exists_still
  have after := reachable.trace trace
  exact ⟨events, last, trace, own, fun _ _ present =>
    still.isResolved after.fetchesSound after.workers_pos present⟩

/-- Moves without end in which callers ask for nothing new. A worker that can move does not keep all
of them waiting for ever; loads end for that reason. -/
structure Schedule (caches : Nat → PageCache) (steps : Nat → Step) : Prop where
  moves : ∀ time, ∃ notices,
    (caches time).move? (steps time) = some (caches (time + 1), notices)
  quiet : ∀ time request, steps time ≠ .request request
  fair : ∀ time, Advances (caches time) →
    ∃ later, time ≤ later ∧ (steps later).isOwn = true

namespace Schedule

variable {caches : Nat → PageCache} {steps : Nat → Step}

theorem move (schedule : Schedule caches steps) (time : Nat) :
    Move (caches time) (steps time) (caches (time + 1)) := by
  obtain ⟨notices, moved⟩ := schedule.moves time
  exact .of_move? moved

theorem reachable (schedule : Schedule caches steps) (start : Reachable (caches 0)) (time : Nat) :
    Reachable (caches time) := by
  induction time with
  | zero => exact start
  | succ time ih =>
      obtain ⟨notices, moved⟩ := schedule.moves time
      exact ih.trace (.step moved (.nil _))

theorem work_antitone (schedule : Schedule caches steps) (start : Reachable (caches 0))
    {time later : Nat} (after : time ≤ later) : (caches later).work ≤ (caches time).work := by
  induction after with
  | refl => exact Nat.le_refl _
  | @step later _ ih =>
      have less := (schedule.move later).work_le (schedule.reachable start later).fetchesSound
        (schedule.quiet later)
      exact Nat.le_trans less ih

theorem resolves (schedule : Schedule caches steps) (start : Reachable (caches 0)) (time : Nat) :
    ∃ last, ∀ later, last ≤ later → (caches later).AllBuilds (·.phase.isResolved = true) := by
  induction work : (caches time).work using Nat.strongRecOn generalizing time with
  | ind measure ih =>
      by_cases moving : ∃ later, time ≤ later ∧ (steps later).isOwn = true
      · obtain ⟨later, after, own⟩ := moving
        have before := schedule.work_antitone start after
        have less := (schedule.move later).work_lt (schedule.reachable start later).fetchesSound own
        exact ih _ (by omega) (later + 1) rfl
      · refine ⟨time, fun later after => ?_⟩
        refine (schedule.reachable start later).isResolved_of_not_advances fun advances => ?_
        obtain ⟨next, following, own⟩ := schedule.fair later advances
        exact moving ⟨next, Nat.le_trans after following, own⟩

end Schedule

/-- What keeps a cache from a deadlock, wherever a run has led it. -/
structure DeadlockFree (cache : PageCache) : Prop where
  advances : ∀ known ∈ cache.builds, known.phase.isResolved = false → Advances cache
  decreases : ∀ step next notices, step.isOwn = true →
    cache.move? step = some (next, notices) → next.work < cache.work
  bounded : ∀ events last, Trace cache events last →
    (∀ event ∈ events, ∀ request, event.step ≠ .request request) →
      events.countP (·.step.isOwn) + last.work ≤ cache.work
  settles : ∃ events last, Trace cache events last ∧
    (∀ event ∈ events, event.step.isOwn = true) ∧ last.AllBuilds (·.phase.isResolved = true)
  resolves : ∀ caches steps, caches 0 = cache → Schedule caches steps →
    ∃ last, ∀ later, last ≤ later → (caches later).AllBuilds (·.phase.isResolved = true)

theorem Reachable.deadlockFree (reachable : Reachable cache) : DeadlockFree cache := by
  constructor
  · intro known member pending
    by_cases advances : Advances cache
    · exact advances
    · obtain ⟨build, present⟩ := List.getElem?_of_mem member
      have resolved : known.phase.isResolved = true :=
        reachable.isResolved_of_not_advances advances build known present
      rw [pending] at resolved
      contradiction
  · intro step next notices own moved
    exact (Move.of_move? moved).work_lt reachable.fetchesSound own
  · intro events last trace quiet
    exact trace.countP_isOwn_le reachable.fetchesSound quiet
  · exact reachable.settles
  · rintro caches steps rfl schedule
    exact schedule.resolves reachable 0

end

theorem deadlockFree_of_stray_load : ∃ cache, Reachable cache ∧
    cache.builds.map (·.phase.isResolved) = [true, false] ∧ cache.runningFetches = 1 ∧
      DeadlockFree cache := by
  have created : create 1 false .byName = .ok { workers := 1 } := rfl
  have trace : Trace { workers := 1 }
      [⟨_, .request { identity := "hero", metadata := .none }, _, _⟩,
        ⟨_, .request { identity := "villain", metadata := .none }, _, _⟩,
        ⟨_, .startBuild, _, _⟩,
        ⟨_, .askFetch 0, _, _⟩,
        ⟨_, .askFetch 0, _, _⟩,
        ⟨_, .startFetch, _, _⟩,
        ⟨_, .startFetch, _, _⟩,
        ⟨_, .finishFetch 0 .metadata (.fail .malformedJson), _, _⟩,
        ⟨_, .finishBuild 0, _, _⟩] _ :=
    .step rfl (.step rfl (.step rfl (.step rfl (.step rfl (.step rfl (.step rfl
      (.step rfl (.step rfl (.nil _)))))))))
  have reachable : Reachable _ := ⟨_, _, _, _, _, created, trace⟩
  exact ⟨_, reachable, rfl, rfl, reachable.deadlockFree⟩

end Flipbook.PageCache
