import Flipbook.PageCache.Settle
import Flipbook.Proofs.PageCache.Schedule

/-!
A cache that is run until nothing moves by itself. Each move takes away from what is left to do, of
which there is no more than the fuel, so all builds have ended if only the loads give something.
-/

namespace Flipbook

namespace Loaders

def Give (loaders : Loaders) : Prop :=
  ∀ resource source, ∃ report, loaders.load resource source = some report

def results (loaders : Loaders) : Results := fun resource source =>
  match loaders.load resource source with
  | some report => report.outcome
  | none => .error .timeout

theorem results_of_load {loaders : Loaders} {resource : Resource} {source : Value}
    {report : Report Value} (given : loaders.load resource source = some report) :
    loaders.results resource source = report.outcome := by
  rw [results, given]

end Loaders

def Watch.work : Watch → Nat
  | .registered => 1
  | _ => 0

def Build.remaining (build : Build) : Nat := build.work + build.watch.work

theorem Build.remaining_le (build : Build) : build.remaining ≤ 9 := by
  have phase : build.phase.work ≤ 2 := by cases build.phase <;> simp [Phase.work]
  have fetch : ∀ fetch : Fetch, fetch.work ≤ 3 := by
    intro fetch
    cases fetch <;> simp [Fetch.work]
  have metadata := fetch build.metadata
  have image := fetch build.image
  have watch : build.watch.work ≤ 1 := by cases build.watch <;> simp [Watch.work]
  simp only [remaining, work]
  omega

theorem Build.remaining_setFetch_lt {build : Build} {resource : Resource} {fetch : Fetch}
    (less : fetch.work < (build.fetch resource).work) :
    (build.setFetch resource fetch).remaining < build.remaining := by
  have sum := build.work_setFetch resource fetch
  have watch : (build.setFetch resource fetch).watch = build.watch := by cases resource <;> rfl
  simp only [remaining, watch]
  omega

namespace PageCache

def Step.isInner : Step → Bool
  | .startBuild | .askFetch _ | .startFetch | .finishFetch .. | .finishBuild _ | .inform _
  | .closeFetches => true
  | .request _ | .register _ | .evict _ | .clear | .close | .abandonFetches => false

variable {cache next last : PageCache} {loaders : Loaders} {step : Step} {build : Nat}
  {known : Build} {notices : List Notice} {events earlier : List Event} {first : PageCache}
  {workers : Int} {evictsFailed : Bool} {order : Groups.Order}

def remaining (cache : PageCache) : Nat :=
  total Build.remaining cache.builds + if cache.fetchesClosed then 0 else 1

theorem remaining_le (cache : PageCache) : cache.remaining ≤ 9 * cache.builds.length + 1 := by
  have bound : ∀ builds, total Build.remaining builds ≤ 9 * builds.length := by
    intro builds
    induction builds with
    | nil => exact Nat.le_refl 0
    | cons build rest ih =>
        have one := build.remaining_le
        rw [total_cons, List.length_cons]
        omega
  have all := bound cache.builds
  unfold remaining
  split <;> omega

theorem remaining_modifyBuild_lt {change : Build → Build}
    (present : cache.builds[build]? = some known)
    (less : (change known).remaining < known.remaining) :
    (cache.modifyBuild build change).remaining < cache.remaining := by
  have sum := total_modify present change Build.remaining
  refine Nat.add_lt_add_right ?_ _
  change total _ (cache.builds.modify build change) < _
  omega

structure Candidate (cache : PageCache) (loaders : Loaders) (step : Step) : Prop where
  inner : step.isInner = true
  given : ∀ build resource result, step = .finishFetch build resource result →
    ∃ known, cache.builds[build]? = some known ∧
      loaders.load resource (known.request.source resource) = some result

theorem candidate_of_fetchEnd? {resource : Resource} (present : cache.builds[build]? = some known)
    (ends : fetchEnd? loaders build known resource = some step) :
    Candidate cache loaders step := by
  unfold fetchEnd? at ends
  split at ends
  next running =>
      obtain ⟨result, given, rfl⟩ := Option.map_eq_some_iff.mp ends
      refine ⟨rfl, ?_⟩
      rintro _ _ _ ⟨⟩
      exact ⟨known, present, given⟩
  next => contradiction

theorem candidate_of_mem (member : step ∈ cache.candidates loaders) :
    Candidate cache loaders step := by
  have quiet : ∀ step : Step, step.isInner = true →
      (∀ build resource result, step ≠ .finishFetch build resource result) →
        Candidate cache loaders step :=
    fun step inner others => ⟨inner, fun _ _ _ same => absurd same (others _ _ _)⟩
  simp only [candidates, fetchEnds, List.mem_append, List.mem_cons, List.mem_map, List.mem_flatMap,
    List.not_mem_nil, or_false, Option.mem_toList, List.mem_zipIdx_iff_getElem?, Prod.exists]
    at member
  rcases member with
    (((rfl | ⟨build, -, rfl⟩) | rfl | ⟨known, build, present, ends⟩) | ⟨build, -, rfl | rfl⟩) | rfl
  · exact quiet _ rfl nofun
  · exact quiet _ rfl nofun
  · exact quiet _ rfl nofun
  · rcases ends with metadata | image
    · exact candidate_of_fetchEnd? present metadata
    · exact candidate_of_fetchEnd? present image
  · exact quiet _ rfl nofun
  · exact quiet _ rfl nofun
  · exact quiet _ rfl nofun

theorem Candidate.follows (candidate : Candidate cache loaders step) (next : PageCache)
    (notices : List Notice) : Event.Follows loaders.results ⟨cache, step, next, notices⟩ := by
  intro build resource result known finished present
  obtain ⟨same, found, given⟩ := candidate.given build resource result finished
  obtain rfl := Option.some.inj (found.symm.trans present)
  exact (Loaders.results_of_load given).symm

theorem mem_candidates_of_range {build : Nat} (inside : build < cache.builds.length) :
    .askFetch build ∈ cache.candidates loaders ∧ .finishBuild build ∈ cache.candidates loaders := by
  simp [candidates, inside]

theorem exists_mem_fetchEnds {resource : Resource} (give : loaders.Give)
    (present : cache.builds[build]? = some known) (running : known.fetch resource = .running) :
    ∃ result, .finishFetch build resource result ∈ cache.candidates loaders := by
  obtain ⟨result, given⟩ := give resource (known.request.source resource)
  have ends : fetchEnd? loaders build known resource =
      some (.finishFetch build resource result) := by
    simp [fetchEnd?, running, Fetch.isRunning, given]
  have member : .finishFetch build resource result ∈ cache.fetchEnds loaders := by
    refine List.mem_flatMap.mpr ⟨(known, build), List.mem_zipIdx_iff_getElem?.mpr present, ?_⟩
    cases resource with
    | metadata => simp [ends]
    | image => simp [ends]
  exact ⟨result, by simp [candidates, member]⟩

variable [Limits]

theorem Move.remaining_lt (sound : FetchesSound cache) (move : Move cache step next)
    (inner : step.isInner = true) : next.remaining < cache.remaining := by
  cases move with
  | startBuild _ first =>
      obtain ⟨inside, queued, _⟩ := List.findIdx?_eq_some_iff_getElem.mp first
      refine remaining_modifyBuild_lt (List.getElem?_eq_getElem inside) ?_
      simp [Build.remaining, Build.work, Phase.isQueued_iff.mp queued, Phase.work]
  | askFetch present _ unasked _ =>
      refine remaining_modifyBuild_lt present (Build.remaining_setFetch_lt ?_)
      simp [Build.fetch_of_unasked? unasked, Fetch.work]
  | refuseFetch present running _ _ =>
      refine remaining_modifyBuild_lt present ?_
      simp [Build.remaining, Build.work, running, Phase.work]
  | @startFetch build known resource waiting _ queue present =>
      have queued := (sound.mem_iff build resource).mp (queue ▸ List.mem_cons_self)
      rw [fetchOf_of_present present] at queued
      refine remaining_modifyBuild_lt present (Build.remaining_setFetch_lt ?_)
      simp [queued, Fetch.work]
  | finishFetch present running =>
      refine remaining_modifyBuild_lt present (Build.remaining_setFetch_lt ?_)
      simp [running, Fetch.work]
  | finishBuild present running _ =>
      refine remaining_modifyBuild_lt present ?_
      simp [Build.remaining, Build.work, running, Phase.work]
  | informSuccess present registered _ | informStale present registered _ _
  | informDropped present registered _ _ =>
      refine remaining_modifyBuild_lt present ?_
      simp [Build.remaining, Build.work, registered, Watch.work]
  | closeFetches _ opened _ => simp [remaining, opened]
  | _ => contradiction

theorem exists_of_advance? (advanced : cache.advance? loaders = some (next, notices)) :
    ∃ step, Candidate cache loaders step ∧ cache.move? step = some (next, notices) := by
  obtain ⟨step, member, moved⟩ := List.exists_of_findSome?_eq_some advanced
  exact ⟨step, candidate_of_mem member, moved⟩

def Event.IsInner (loaders : Loaders) (event : Event) : Prop :=
  event.step.isInner = true ∧ event.Follows loaders.results

theorem exists_trace_settleFrom {fuel : Nat} (sound : FetchesSound cache)
    (enough : cache.remaining ≤ fuel) (notices : List Notice) :
    ∃ events, Trace cache events (settleFrom fuel cache loaders notices).1 ∧
      (∀ event ∈ events, event.IsInner loaders) ∧
      (settleFrom fuel cache loaders notices).1.advance? loaders = none := by
  -- Each move lowers what is left to do, so without fuel there is no move.
  induction fuel generalizing cache notices with
  | zero =>
      refine ⟨[], .nil cache, List.forall_mem_nil _, ?_⟩
      cases advanced : cache.advance? loaders with
      | none => exact advanced
      | some result =>
          obtain ⟨step, candidate, moved⟩ := exists_of_advance? advanced
          have less := (Move.of_move? moved).remaining_lt sound candidate.inner
          omega
  | succ fuel ih =>
      unfold settleFrom
      cases advanced : cache.advance? loaders with
      | none => exact ⟨[], .nil cache, List.forall_mem_nil _, advanced⟩
      | some result =>
          obtain ⟨next, more⟩ := result
          obtain ⟨step, candidate, moved⟩ := exists_of_advance? advanced
          have move := Move.of_move? moved
          have less := move.remaining_lt sound candidate.inner
          obtain ⟨events, trace, inner, still⟩ :=
            ih (sound.move move) (by omega) (notices ++ more)
          refine ⟨⟨cache, step, next, more⟩ :: events, .step moved trace, ?_, still⟩
          exact List.forall_mem_cons.mpr ⟨⟨candidate.inner, candidate.follows _ _⟩, inner⟩

theorem isStill_of_advance?_eq_none (give : loaders.Give)
    (ended : cache.advance? loaders = none) : IsStill cache := by
  have none := List.findSome?_eq_none_iff.mp ended
  intro step own
  cases moved : cache.move? step with
  | none => rfl
  | some result =>
      obtain ⟨next, notices⟩ := result
      have contrary : ∃ other ∈ cache.candidates loaders, ∃ last, Move cache other last := by
        cases Move.of_move? moved with
        | startBuild idle first =>
            exact ⟨.startBuild, by simp [candidates], _, .startBuild idle first⟩
        | askFetch present running unasked opened =>
            have inside := (List.getElem?_eq_some_iff.mp present).1
            exact ⟨_, (mem_candidates_of_range inside).1, _,
              .askFetch present running unasked opened⟩
        | refuseFetch present running unasked closed =>
            have inside := (List.getElem?_eq_some_iff.mp present).1
            exact ⟨_, (mem_candidates_of_range inside).1, _,
              .refuseFetch present running unasked closed⟩
        | startFetch idle queue present =>
            exact ⟨.startFetch, by simp [candidates], _, .startFetch idle queue present⟩
        | finishFetch present running =>
            obtain ⟨result, member⟩ := exists_mem_fetchEnds give present running
            exact ⟨_, member, _, .finishFetch present running⟩
        | finishBuild present running joined =>
            have inside := (List.getElem?_eq_some_iff.mp present).1
            exact ⟨_, (mem_candidates_of_range inside).2, _,
              .finishBuild present running joined⟩
        | _ => contradiction
      obtain ⟨other, member, last, move⟩ := contrary
      obtain ⟨notices, possible⟩ := move.possible
      rw [none other member] at possible
      contradiction

theorem exists_trace_settle (reachable : Reachable cache) (give : loaders.Give) :
    ∃ events, Trace cache events (cache.settle loaders).1 ∧
      (∀ event ∈ events, event.IsInner loaders) ∧ IsStill (cache.settle loaders).1 := by
  obtain ⟨events, trace, inner, ended⟩ :=
    exists_trace_settleFrom reachable.fetchesSound cache.remaining_le []
  exact ⟨events, trace, inner, isStill_of_advance?_eq_none give ended⟩

/-- Left to itself after any run in which nobody abandons it, a cache ends each build as the
sequence of its loads, its page and its definitions does. -/
theorem Trace.outcome?_settle (created : create workers evictsFailed order = .ok first)
    (before : Trace first earlier cache)
    (given : ∀ event ∈ earlier, event.Follows loaders.results)
    (waits : ∀ event ∈ earlier, event.step ≠ .abandonFetches) (give : loaders.Give)
    (present : cache.builds[build]? = some known) :
    (cache.settle loaders).1.outcome? build =
      some (known.request.sequential loaders.results order) := by
  have reachable : Reachable cache := ⟨_, _, _, _, _, created, before⟩
  obtain ⟨events, trace, inner, still⟩ := exists_trace_settle reachable give
  have whole := before.append trace
  have after : Reachable (cache.settle loaders).1 := ⟨_, _, _, _, _, created, whole⟩
  obtain ⟨later, found, continues⟩ := trace.continues reachable.fetchesSound present
  have resolved := still.isResolved after.fetchesSound after.workers_pos found
  cases ended : later.phase with
  | resolved outcome =>
      have follows : ∀ event ∈ earlier ++ events, event.Follows loaders.results := by
        intro event member
        rcases List.mem_append.mp member with old | new
        · exact given event old
        · exact (inner event new).2
      rw [outcome?, found, Option.bind_some, ended]
      rcases whole.outcome_eq_or_abandoned created follows found ended with
        same | ⟨-, event, member, abandons⟩
      · rw [same, continues.request_eq]
        rfl
      · rcases List.mem_append.mp member with old | new
        · exact absurd abandons (waits event old)
        · have moves := (inner event new).1
          rw [abandons] at moves
          contradiction
  | queued | running =>
      rw [ended] at resolved
      contradiction

end PageCache

end Flipbook
