import Flipbook.Proofs.PageCache.StrayLoads

/-!
Builds that wait for builds that failed. Stray loads may take every worker of the second pool, and a
build that comes after them has to wait until one of them ends.
-/

namespace Flipbook

namespace PageCache

variable {cache next first last : PageCache} {step : Step} {events : List Event} {workers : Nat}
  {builds : List Build} {known : Build} {queue : List (Nat × Resource)} {resource : Resource}

structure Stands (workers : Nat) (builds : List Build) (queue : List (Nat × Resource))
    (cache : PageCache) : Prop where
  workers_eq : cache.workers = workers
  builds_eq : cache.builds = builds
  queue_eq : cache.fetchQueue = queue
  accepts : cache.buildsClosed = false
  opened : cache.fetchesClosed = false

theorem modify_concat (builds : List Build) (known : Build) (change : Build → Build) :
    (builds ++ [known]).modify builds.length change = builds ++ [change known] := by
  induction builds with
  | nil => rfl
  | cons first rest ih =>
      rw [List.cons_append, List.length_cons, List.modify_succ_cons, ih, List.cons_append]

namespace Stands

theorem present (stands : Stands workers (builds ++ [known]) queue cache) :
    cache.builds[builds.length]? = some known := by
  rw [stands.builds_eq, List.getElem?_concat_length]

theorem modifyBuild (stands : Stands workers (builds ++ [known]) queue cache)
    (change : Build → Build) :
    Stands workers (builds ++ [change known]) queue (cache.modifyBuild builds.length change) := by
  refine ⟨stands.workers_eq, ?_, stands.queue_eq, stands.accepts, stands.opened⟩
  rw [PageCache.modifyBuild, stands.builds_eq, modify_concat]

end Stands

variable [Limits]

theorem Move.runningFetches_le (sound : FetchesSound cache) (move : Move cache step next)
    (endless : ∀ build resource result, step ≠ .finishFetch build resource result) :
    cache.runningFetches ≤ next.runningFetches := by
  rw [runningFetches_eq, runningFetches_eq]
  rcases move.total_builds sound (Build.tally Fetch.isRunning) with
    same | ⟨request, added⟩ | ⟨build, known, later, -, changed, sum⟩
  · exact Nat.le_of_eq same.symm
  · exact Nat.le.intro added.symm
  · have more : known.tally Fetch.isRunning ≤ later.tally Fetch.isRunning := by
      cases changed with
      | registered | started | refused | concluded | informed => exact Nat.le_refl _
      | @asked _ resource running unasked =>
          have count := known.tally_setFetch Fetch.isRunning resource .queued
          rw [Build.fetch_of_unasked? unasked] at count
          exact Nat.le.intro count.symm
      | @begun _ resource queued =>
          have count := known.tally_setFetch Fetch.isRunning resource .running
          rw [queued] at count
          exact Nat.le.intro count.symm
      | ended => exact absurd rfl (endless _ _ _)
    omega

theorem Move.mem_fetchQueue (move : Move cache step next)
    (full : 2 * cache.workers ≤ cache.runningFetches) {waiting : Nat × Resource}
    (member : waiting ∈ cache.fetchQueue) : waiting ∈ next.fetchQueue := by
  cases move with
  | askFetch => exact List.mem_append_left _ member
  | startFetch idle => omega
  | _ => exact member

theorem Trace.mem_fetchQueue (trace : Trace first events last) (sound : FetchesSound first)
    (full : 2 * first.workers ≤ first.runningFetches)
    (endless : ∀ event ∈ events, ∀ build resource result,
      event.step ≠ .finishFetch build resource result)
    {waiting : Nat × Resource} (member : waiting ∈ first.fetchQueue) :
    waiting ∈ last.fetchQueue := by
  have kept : ∀ cache step next notices, ⟨cache, step, next, notices⟩ ∈ events →
      FetchesSound cache → 2 * cache.workers ≤ cache.runningFetches ∧ waiting ∈ cache.fetchQueue →
      Move cache step next →
        2 * next.workers ≤ next.runningFetches ∧ waiting ∈ next.fetchQueue := by
    rintro cache step next notices among sound ⟨full, member⟩ move
    have more := move.runningFetches_le sound (endless _ among)
    rw [move.workers_eq]
    exact ⟨by omega, move.mem_fetchQueue full member⟩
  exact (trace.invariant_of_sound kept sound ⟨full, member⟩).2

def Leads (first : PageCache) (builds : List Build) (queue : List (Nat × Resource)) : Prop :=
  ∃ events last, Trace first events last ∧ Stands first.workers builds queue last

theorem Leads.move {later : List Build} {rest : List (Nat × Resource)}
    (leads : Leads first builds queue)
    (moves : ∀ cache, Stands first.workers builds queue cache →
      ∃ step next, Move cache step next ∧ Stands first.workers later rest next) :
    Leads first later rest := by
  obtain ⟨events, cache, trace, stands⟩ := leads
  obtain ⟨step, next, move, after⟩ := moves cache stands
  obtain ⟨notices, moved⟩ := move.possible
  exact ⟨_, next, trace.append (.step moved (.nil next)), after⟩

namespace Leads

theorem request (leads : Leads first builds queue) (request : PageRequest) :
    Leads first (builds ++ [{ request := request }]) queue := by
  obtain ⟨events, cache, trace, stands⟩ := leads
  have cleared : cache.move? .clear = some (cache.clear, []) := rfl
  have asked : Move cache.clear (.request request) _ := .accepted rfl stands.accepts
  obtain ⟨notices, moved⟩ := asked.possible
  refine ⟨_, _, trace.append (.step cleared (.step moved (.nil _))), stands.workers_eq, ?_,
    stands.queue_eq, stands.accepts, stands.opened⟩
  exact congrArg (· ++ _) stands.builds_eq

theorem start (leads : Leads first (builds ++ [known]) queue) (workers : 0 < first.workers)
    (ended : ∀ other ∈ builds, other.phase.isResolved = true) (queued : known.phase = .queued) :
    Leads first (builds ++ [{ known with phase := .running }]) queue := by
  have still : ∀ other ∈ builds, other.phase.isQueued = false ∧ other.phase.isRunning = false := by
    intro other before
    have resolved := ended other before
    cases phase : other.phase with
    | resolved outcome => exact ⟨rfl, rfl⟩
    | _ => rw [phase] at resolved; contradiction
  have idle : (builds ++ [known]).countP (·.phase.isRunning) = 0 := by
    rw [List.countP_append, List.countP_singleton, queued, List.countP_eq_zero.mpr]
    · rfl
    · exact fun other before => Bool.eq_false_iff.mp (still other before).2
  have first : (builds ++ [known]).findIdx? (·.phase.isQueued) = some builds.length := by
    rw [List.findIdx?_append, List.findIdx?_eq_none_iff.mpr fun other before =>
      (still other before).1, List.findIdx?_singleton, queued]
    simp [Phase.isQueued]
  refine leads.move fun cache stands => ⟨_, _, .startBuild ?_ (stands.builds_eq ▸ first), ?_⟩
  · rw [runningBuilds, stands.builds_eq, stands.workers_eq, idle]
    exact workers
  · exact stands.modifyBuild fun known => { known with phase := .running }

theorem ask (leads : Leads first (builds ++ [known]) queue) (running : known.phase = .running)
    (unasked : known.unasked? = some resource) :
    Leads first (builds ++ [known.setFetch resource .queued])
      (queue ++ [(builds.length, resource)]) := by
  refine leads.move fun cache stands =>
    ⟨_, _, .askFetch stands.present running unasked stands.opened, ?_⟩
  have after := stands.modifyBuild (·.setFetch resource .queued)
  refine ⟨after.workers_eq, after.builds_eq, ?_, after.accepts, after.opened⟩
  exact congrArg (· ++ _) stands.queue_eq

theorem fetch (leads : Leads first (builds ++ [known]) ((builds.length, resource) :: queue))
    (idle : total (Build.tally Fetch.isRunning) (builds ++ [known]) < 2 * first.workers) :
    Leads first (builds ++ [known.setFetch resource .running]) queue := by
  refine leads.move fun cache stands =>
    ⟨_, _, .startFetch ?_ stands.queue_eq stands.present, ?_⟩
  · rw [runningFetches_eq, stands.builds_eq, stands.workers_eq]
    exact idle
  · have after := stands.modifyBuild (·.setFetch resource .running)
    exact ⟨after.workers_eq, after.builds_eq, rfl, after.accepts, after.opened⟩

theorem finish (leads : Leads first (builds ++ [known]) queue) (resource : Resource)
    (running : known.fetch resource = .running) (result : Report Value) :
    Leads first (builds ++ [known.setFetch resource (.finished result.outcome)]) queue :=
  leads.move fun _ stands => ⟨_, _, .finishFetch stands.present running,
    stands.modifyBuild (·.setFetch resource (.finished result.outcome))⟩

theorem fail {fault : Fault} (leads : Leads first (builds ++ [known]) queue)
    (running : known.phase = .running) (failed : known.metadata = .finished (.error fault))
    (asked : known.image ≠ .absent) :
    Leads first (builds ++ [{ known with
      phase := .resolved (.error (.pageBuild known.request.identity.text fault)) }]) queue := by
  have joined := Build.joined?_eq_some_iff.mpr (.metadataFailed failed asked)
  refine leads.move fun cache stands =>
    ⟨_, _, .finishBuild stands.present running joined, ?_⟩
  rw [Build.conclude_of_error rfl]
  exact stands.modifyBuild fun old =>
    { old with phase := .resolved (.error (.pageBuild known.request.identity.text fault)) }

end Leads

end PageCache

def Build.failed (request : PageRequest) (fault : Fault) : Build where
  request := request
  phase := .resolved (.error (.pageBuild request.identity.text fault))
  metadata := .finished (.error fault)
  image := .running

theorem Build.strays_failed (request : PageRequest) (fault : Fault) :
    (Build.failed request fault).Strays .image :=
  .image rfl rfl rfl

namespace PageCache

variable {cache first last : PageCache} {events : List Event} {request : PageRequest}
  {fault : Fault}

theorem total_failed (count : Nat) (known : Build) :
    total (Build.tally Fetch.isRunning)
      (List.replicate count (Build.failed request fault) ++ [known]) =
        count + known.tally Fetch.isRunning := by
  have one : (Build.failed request fault).tally Fetch.isRunning = 1 := rfl
  induction count with
  | zero => exact Nat.add_comm ..
  | succ count ih =>
      rw [List.replicate_succ, List.cons_append, total_cons, ih, one]
      omega

variable [Limits]

theorem Leads.failed (start : Leads first [] []) (workers : 0 < first.workers)
    (request : PageRequest) (fault : Fault) :
    ∀ count, count ≤ 2 * first.workers →
      Leads first (List.replicate count (Build.failed request fault)) [] := by
  intro count bound
  induction count with
  | zero => exact start
  | succ count ih =>
      have leads := ih (by omega)
      have ended : ∀ other ∈ List.replicate count (Build.failed request fault),
          other.phase.isResolved = true := by
        intro other member
        rw [List.eq_of_mem_replicate member]
        rfl
      have asked := (((leads.request request).start workers ended rfl).ask rfl rfl).ask rfl rfl
      have begun := asked.fetch (by rw [total_failed]; exact bound)
      have stopped := begun.finish .metadata rfl (.fail fault)
      have drawing := stopped.fetch (by rw [total_failed]; exact bound)
      have failed := drawing.fail rfl rfl nofun
      rw [List.replicate_succ']
      exact failed

/-- A build that runs and has neither of its resources, while loads of builds that failed take all
workers of the second pool. -/
structure Delayed (request : PageRequest) (build : Nat) (cache : PageCache) : Prop where
  inUse : cache.buildsClosed = false ∧ cache.fetchesClosed = false
  runs : ∃ known, cache.builds[build]? = some known ∧ known.request = request ∧
    known.phase = .running ∧ known.metadata = .queued ∧ known.image = .queued
  busy : cache.runningFetches = 2 * cache.workers
  strayed : ∀ other ∈ cache.builds, ∀ resource, other.fetch resource = .running →
    other.Strays resource
  exceeded : 2 * cache.workers < cache.outstanding
  waits : ∀ events last, Trace cache events last →
    (∀ event ∈ events, ∀ other resource result,
      event.step ≠ .finishFetch other resource result) →
    ∀ resource, last.fetchOf build resource = .queued

theorem Reachable.delayed (reachable : Reachable first) (start : Leads first [] [])
    (request : PageRequest) :
    ∃ events last build, Trace first events last ∧ Delayed request build last := by
  have workers := reachable.workers_pos
  have crowd := start.failed workers request .malformedJson (2 * first.workers) (Nat.le_refl _)
  generalize same :
    List.replicate (2 * first.workers) (Build.failed request .malformedJson) = builds at crowd
  have ended : ∀ other ∈ builds, other.phase.isResolved = true := by
    intro other member
    rw [← same] at member
    rw [List.eq_of_mem_replicate member]
    rfl
  obtain ⟨events, last, trace, stands⟩ :=
    (((crowd.request request).start workers ended rfl).ask rfl rfl).ask rfl rfl
  have busy : last.runningFetches = 2 * last.workers := by
    rw [runningFetches_eq, stands.builds_eq, ← same, total_failed, stands.workers_eq]
    rfl
  refine ⟨events, last, builds.length, trace, ⟨stands.accepts, stands.opened⟩,
    ⟨_, stands.present, rfl, rfl, rfl, rfl⟩, busy, ?_, ?_, ?_⟩
  · intro other member resource running
    rw [stands.builds_eq] at member
    rcases List.mem_append.mp member with before | here
    · rw [← same] at before
      rw [List.eq_of_mem_replicate before] at running ⊢
      cases resource with
      | metadata => contradiction
      | image => exact Build.strays_failed request .malformedJson
    · rw [List.mem_singleton.mp here] at running
      cases resource <;> contradiction
  · rw [outstanding, stands.queue_eq, busy]
    simp
  · intro more final later endless resource
    have member : (builds.length, resource) ∈ last.fetchQueue := by
      rw [stands.queue_eq]
      cases resource <;> simp
    have after := reachable.trace trace
    have left := later.mem_fetchQueue after.fetchesSound (Nat.le_of_eq busy.symm) endless member
    exact ((after.trace later).fetchesSound.mem_iff _ _).mp left

/-- The loads of any run and their builds, and how the loads of builds that failed delay another
one, whatever the number of workers and whatever it was asked for. -/
theorem loads_outlive_builds {workers : Int} {evictsFailed : Bool} {order : Groups.Order}
    (created : create workers evictsFailed order = .ok first) :
    (∀ events last, Trace first events last → LoadsOwned events last) ∧
      ∀ request, ∃ events last build, Trace first events last ∧ Delayed request build last := by
  refine ⟨fun events last trace => trace.loadsOwned created, fun request => ?_⟩
  have reachable : Reachable first := ⟨_, _, _, _, _, created, .nil first⟩
  refine reachable.delayed ⟨[], first, .nil first, rfl, ?_, ?_, ?_, ?_⟩ request <;>
    rw [(eq_of_create created).2]

end PageCache

theorem PageCache.loads_outlive_builds_of_one_worker : ∃ first,
    create 1 false .byName = .ok first ∧
      (∀ events last, Trace first events last → LoadsOwned events last) ∧
      ∀ request, ∃ events last build, Trace first events last ∧ Delayed request build last := by
  have created : create 1 false .byName = .ok { workers := 1 } := rfl
  exact ⟨_, created, loads_outlive_builds created⟩

end Flipbook
