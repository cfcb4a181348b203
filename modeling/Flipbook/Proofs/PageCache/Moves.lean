import Flipbook.PageCache.Step

/-!
The moves of a page cache as a relation, with one rule for each way in which a move may go. Later
proofs take a move apart by its rules and never open the functions that make it.
-/

namespace Flipbook

namespace PageCache

theorem getElem?_modifyBuild (cache : PageCache) (build other : Nat) (change : Build → Build) :
    (cache.modifyBuild build change).builds[other]? =
      if build = other then (cache.builds[other]?).map change else cache.builds[other]? := by
  simp only [modifyBuild, List.getElem?_modify]
  split <;> simp

theorem getElem?_modifyBuild_self {cache : PageCache} {build : Nat} {known : Build}
    (present : cache.builds[build]? = some known) (change : Build → Build) :
    (cache.modifyBuild build change).builds[build]? = some (change known) := by
  simp [getElem?_modifyBuild, present]

theorem getElem?_modifyBuild_of_ne {build other : Nat} (different : build ≠ other)
    (cache : PageCache) (change : Build → Build) :
    (cache.modifyBuild build change).builds[other]? = cache.builds[other]? := by
  simp [getElem?_modifyBuild, different]

@[simp] theorem length_modifyBuild (cache : PageCache) (build : Nat) (change : Build → Build) :
    (cache.modifyBuild build change).builds.length = cache.builds.length := by
  simp [modifyBuild]

def total (measure : Build → Nat) (builds : List Build) : Nat :=
  builds.foldr (fun build sum => measure build + sum) 0

theorem total_cons (measure : Build → Nat) (first : Build) (rest : List Build) :
    total measure (first :: rest) = measure first + total measure rest := rfl

theorem total_append (measure : Build → Nat) (earlier later : List Build) :
    total measure (earlier ++ later) = total measure earlier + total measure later := by
  induction earlier with
  | nil => exact (Nat.zero_add _).symm
  | cons first rest ih => rw [List.cons_append, total_cons, total_cons, ih, Nat.add_assoc]

theorem total_modify {builds : List Build} {build : Nat} {known : Build}
    (present : builds[build]? = some known) (change : Build → Build) (measure : Build → Nat) :
    total measure (builds.modify build change) + measure known =
      total measure builds + measure (change known) := by
  induction builds generalizing build with
  | nil => simp at present
  | cons first rest ih =>
      cases build with
      | zero =>
          simp only [List.getElem?_cons_zero, Option.some.injEq] at present
          rw [present, List.modify_zero_cons, total_cons, total_cons]
          omega
      | succ build =>
          have following := ih (by simpa using present)
          rw [List.modify_succ_cons, total_cons, total_cons]
          omega

variable [Limits]

/-- What a move does to a cache. Each rule has the guard of its move as hypotheses. -/
inductive Move (cache : PageCache) : Step → PageCache → Prop
  | found {request : PageRequest} {build : Nat}
      (held : Keyed.lookup? (keyFor request.identity) cache.pages = some build) :
      Move cache (.request request) cache
  | rejected {request : PageRequest}
      (missing : Keyed.lookup? (keyFor request.identity) cache.pages = none)
      (closed : cache.buildsClosed = true) :
      Move cache (.request request) cache
  | accepted {request : PageRequest}
      (missing : Keyed.lookup? (keyFor request.identity) cache.pages = none)
      (opened : cache.buildsClosed = false) :
      Move cache (.request request)
        { cache with
          builds := cache.builds ++ [{ request }]
          pages := Keyed.set cache.pages (keyFor request.identity) cache.builds.length }
  | register {build : Nat} {known : Build} (present : cache.builds[build]? = some known)
      (evicts : cache.evictsFailed = true) (unregistered : known.watch = .unregistered) :
      Move cache (.register build)
        (cache.modifyBuild build fun known => { known with watch := .registered })
  | startBuild {build : Nat} (idle : cache.runningBuilds < cache.workers)
      (first : cache.builds.findIdx? (·.phase.isQueued) = some build) :
      Move cache .startBuild (cache.modifyBuild build fun known => { known with phase := .running })
  | askFetch {build : Nat} {known : Build} {resource : Resource}
      (present : cache.builds[build]? = some known) (running : known.phase = .running)
      (unasked : known.unasked? = some resource) (opened : cache.fetchesClosed = false) :
      Move cache (.askFetch build)
        { cache.modifyBuild build (·.setFetch resource .queued) with
          fetchQueue := cache.fetchQueue ++ [(build, resource)] }
  | refuseFetch {build : Nat} {known : Build} {resource : Resource}
      (present : cache.builds[build]? = some known) (running : known.phase = .running)
      (unasked : known.unasked? = some resource) (closed : cache.fetchesClosed = true) :
      Move cache (.askFetch build)
        (cache.modifyBuild build fun known =>
          { known with phase := .resolved (.error .poolClosed) })
  | startFetch {build : Nat} {known : Build} {resource : Resource}
      {waiting : List (Nat × Resource)} (idle : cache.runningFetches < 2 * cache.workers)
      (queue : cache.fetchQueue = (build, resource) :: waiting)
      (present : cache.builds[build]? = some known) :
      Move cache .startFetch
        { cache.modifyBuild build (·.setFetch resource .running) with
          fetchQueue := waiting
          loads := cache.loads ++ [⟨build, resource, known.request.source resource⟩] }
  | finishFetch {build : Nat} {known : Build} {resource : Resource} {result : Report Value}
      (present : cache.builds[build]? = some known) (running : known.fetch resource = .running) :
      Move cache (.finishFetch build resource result)
        (cache.modifyBuild build (·.setFetch resource (.finished result.outcome)))
  | finishBuild {build : Nat} {known : Build} {resources : Except Fault (Value × Value)}
      (present : cache.builds[build]? = some known) (running : known.phase = .running)
      (joined : known.joined? = some resources) :
      Move cache (.finishBuild build)
        (cache.modifyBuild build fun old =>
          { old with
            phase := .resolved (Build.conclude known.request cache.order resources).outcome })
  | informSuccess {build : Nat} {known : Build} {page : Page}
      (present : cache.builds[build]? = some known) (registered : known.watch = .registered)
      (ended : known.phase = .resolved (.ok page)) :
      Move cache (.inform build)
        (cache.modifyBuild build fun known => { known with watch := .informed })
  | informStale {build : Nat} {known : Build} {fault : Fault}
      (present : cache.builds[build]? = some known) (registered : known.watch = .registered)
      (ended : known.phase = .resolved (.error fault))
      (gone : Keyed.lookup? (keyFor known.request.identity) cache.pages ≠ some build) :
      Move cache (.inform build)
        (cache.modifyBuild build fun known => { known with watch := .informed })
  | informDropped {build : Nat} {known : Build} {fault : Fault}
      (present : cache.builds[build]? = some known) (registered : known.watch = .registered)
      (ended : known.phase = .resolved (.error fault))
      (held : Keyed.lookup? (keyFor known.request.identity) cache.pages = some build) :
      Move cache (.inform build)
        { cache.modifyBuild build fun known => { known with watch := .informed } with
          pages := Keyed.erase cache.pages (keyFor known.request.identity) }
  | evict {identity : PageIdentity} :
      Move cache (.evict identity)
        { cache with pages := Keyed.erase cache.pages (keyFor identity) }
  | clear : Move cache .clear { cache with pages := [] }
  | close : Move cache .close { cache with buildsClosed := true }
  | closeFetches (closed : cache.buildsClosed = true) (opened : cache.fetchesClosed = false)
      (ended : ∀ known ∈ cache.builds, known.phase.isResolved = true) :
      Move cache .closeFetches { cache with fetchesClosed := true }
  | abandonFetches (closed : cache.buildsClosed = true) (opened : cache.fetchesClosed = false) :
      Move cache .abandonFetches { cache with fetchesClosed := true }

end PageCache

theorem Phase.isRunning_iff {phase : Phase} : phase.isRunning = true ↔ phase = .running := by
  cases phase <;> simp [isRunning]

theorem Phase.isQueued_iff {phase : Phase} : phase.isQueued = true ↔ phase = .queued := by
  cases phase <;> simp [isQueued]

theorem Fetch.isRunning_iff {fetch : Fetch} : fetch.isRunning = true ↔ fetch = .running := by
  cases fetch <;> simp [isRunning]

namespace PageCache

variable {cache next : PageCache} {notices : List Notice}

theorem eq_some_of_quiet {made : Option PageCache}
    (moved : made.map (·, []) = some (next, notices)) : made = some next := by
  obtain ⟨result, made, equal⟩ := Option.map_eq_some_iff.mp moved
  rw [made, (Prod.mk.inj equal).1]

variable [Limits]

theorem Move.of_request {request : PageRequest}
    (moved : (cache.request request).1 = next) : Move cache (.request request) next := by
  unfold PageCache.request at moved
  dsimp only at moved
  split at moved
  next build held => exact moved ▸ .found held
  next missing =>
      split at moved
      next closed => exact moved ▸ .rejected missing closed
      next opened => exact moved ▸ .accepted missing (by simpa using opened)

theorem Move.of_register? {build : Nat} (moved : cache.register? build = some next) :
    Move cache (.register build) next := by
  unfold PageCache.register? at moved
  split at moved
  next known present =>
      split at moved
      next allowed =>
          simp only [Bool.and_eq_true, decide_eq_true_eq] at allowed
          exact Option.some.inj moved ▸ .register present allowed.1 allowed.2
      next => contradiction
  next => contradiction

theorem Move.of_startBuild? (moved : cache.startBuild? = some next) :
    Move cache .startBuild next := by
  unfold PageCache.startBuild? at moved
  split at moved
  next idle =>
      obtain ⟨build, first, rfl⟩ := Option.map_eq_some_iff.mp moved
      exact .startBuild idle first
  next => contradiction

theorem Move.of_askFetch? {build : Nat} (moved : cache.askFetch? build = some next) :
    Move cache (.askFetch build) next := by
  unfold PageCache.askFetch? at moved
  split at moved
  next known present =>
      split at moved
      next running =>
          obtain ⟨resource, unasked, result⟩ := Option.map_eq_some_iff.mp moved
          have runs := Phase.isRunning_iff.mp running
          split at result
          next closed => exact result ▸ .refuseFetch present runs unasked closed
          next opened => exact result ▸ .askFetch present runs unasked (by simpa using opened)
      next => contradiction
  next => contradiction

theorem Move.of_startFetch? (moved : cache.startFetch? = some next) :
    Move cache .startFetch next := by
  unfold PageCache.startFetch? at moved
  split at moved
  next idle =>
      split at moved
      next => contradiction
      next build resource waiting queue =>
          obtain ⟨known, present, rfl⟩ := Option.map_eq_some_iff.mp moved
          exact .startFetch idle queue present
  next => contradiction

theorem Move.of_finishFetch? {build : Nat} {resource : Resource} {result : Report Value}
    (moved : cache.finishFetch? build resource result = some (next, notices)) :
    Move cache (.finishFetch build resource result) next := by
  unfold PageCache.finishFetch? at moved
  split at moved
  next known present =>
      split at moved
      next running =>
          simp only [Option.some.injEq, Prod.mk.injEq] at moved
          exact moved.1 ▸ .finishFetch present (Fetch.isRunning_iff.mp running)
      next => contradiction
  next => contradiction

theorem Move.of_finishBuild? {build : Nat}
    (moved : cache.finishBuild? build = some (next, notices)) :
    Move cache (.finishBuild build) next := by
  unfold PageCache.finishBuild? at moved
  split at moved
  next known present =>
      split at moved
      next running =>
          obtain ⟨resources, joined, result⟩ := Option.map_eq_some_iff.mp moved
          simp only [Prod.mk.injEq] at result
          exact result.1 ▸ .finishBuild present (Phase.isRunning_iff.mp running) joined
      next => contradiction
  next => contradiction

theorem Move.of_inform? {build : Nat} (moved : cache.inform? build = some (next, notices)) :
    Move cache (.inform build) next := by
  unfold PageCache.inform? at moved
  split at moved
  next known present =>
      split at moved
      next registered =>
          dsimp only at moved
          split at moved
          next fault ended =>
              unfold PageCache.dropBuild at moved
              split at moved
              next held =>
                  simp only [Option.some.injEq, Prod.mk.injEq] at moved
                  exact moved.1 ▸ .informDropped present registered ended held
              next gone =>
                  simp only [Option.some.injEq, Prod.mk.injEq] at moved
                  exact moved.1 ▸ .informStale present registered ended gone
          next page ended =>
              simp only [Option.some.injEq, Prod.mk.injEq] at moved
              exact moved.1 ▸ .informSuccess present registered ended
          next => contradiction
      next => contradiction
  next => contradiction

theorem Move.of_closeFetches? (moved : cache.closeFetches? = some next) :
    Move cache .closeFetches next := by
  unfold PageCache.closeFetches? at moved
  split at moved
  next allowed =>
      simp only [Bool.and_eq_true, Bool.not_eq_true', List.all_eq_true] at allowed
      exact Option.some.inj moved ▸ .closeFetches allowed.1.1 allowed.1.2 allowed.2
  next => contradiction

theorem Move.of_abandonFetches? (moved : cache.abandonFetches? = some next) :
    Move cache .abandonFetches next := by
  unfold PageCache.abandonFetches? at moved
  split at moved
  next allowed =>
      simp only [Bool.and_eq_true, Bool.not_eq_true'] at allowed
      exact Option.some.inj moved ▸ .abandonFetches allowed.1 allowed.2
  next => contradiction

theorem Move.of_move? {step : Step} (moved : cache.move? step = some (next, notices)) :
    Move cache step next := by
  cases step with
  | request request =>
      simp only [move?, Option.some.injEq, Prod.mk.injEq] at moved
      exact .of_request moved.1
  | register build => exact .of_register? (eq_some_of_quiet moved)
  | startBuild => exact .of_startBuild? (eq_some_of_quiet moved)
  | askFetch build => exact .of_askFetch? (eq_some_of_quiet moved)
  | startFetch => exact .of_startFetch? (eq_some_of_quiet moved)
  | finishFetch build resource result => exact .of_finishFetch? moved
  | finishBuild build => exact .of_finishBuild? moved
  | inform build => exact .of_inform? moved
  | evict identity =>
      simp only [move?, Option.some.injEq, Prod.mk.injEq] at moved
      exact moved.1 ▸ .evict
  | clear =>
      simp only [move?, Option.some.injEq, Prod.mk.injEq] at moved
      exact moved.1 ▸ .clear
  | close =>
      simp only [move?, Option.some.injEq, Prod.mk.injEq] at moved
      exact moved.1 ▸ .close
  | closeFetches => exact .of_closeFetches? (eq_some_of_quiet moved)
  | abandonFetches => exact .of_abandonFetches? (eq_some_of_quiet moved)

theorem Move.possible {step : Step} (move : Move cache step next) :
    ∃ notices, cache.move? step = some (next, notices) := by
  cases move with
  | found held => exact ⟨_, by simp [move?, request, held]; rfl⟩
  | rejected missing closed => exact ⟨_, by simp [move?, request, missing, closed]; rfl⟩
  | accepted missing opened => exact ⟨_, by simp [move?, request, missing, opened]; rfl⟩
  | register present evicts unregistered =>
      exact ⟨[], by simp [move?, register?, present, evicts, unregistered]⟩
  | startBuild idle first => exact ⟨[], by simp [move?, startBuild?, idle, first]⟩
  | askFetch present running unasked opened =>
      have runs := Phase.isRunning_iff.mpr running
      exact ⟨[], by simp [move?, askFetch?, present, runs, unasked, opened]⟩
  | refuseFetch present running unasked closed =>
      have runs := Phase.isRunning_iff.mpr running
      exact ⟨[], by simp [move?, askFetch?, present, runs, unasked, closed]⟩
  | startFetch idle queue present => exact ⟨[], by simp [move?, startFetch?, idle, queue, present]⟩
  | @finishFetch build known resource result present running =>
      have runs := Fetch.isRunning_iff.mpr running
      exact ⟨result.notices, by simp [move?, finishFetch?, present, runs]⟩
  | finishBuild present running joined =>
      have runs := Phase.isRunning_iff.mpr running
      exact ⟨_, by simp [move?, finishBuild?, present, runs, joined]; rfl⟩
  | informSuccess present registered ended =>
      exact ⟨[], by simp [move?, inform?, present, registered, ended]⟩
  | informStale present registered ended gone =>
      exact ⟨[], by simp [move?, inform?, present, registered, ended, dropBuild, modifyBuild, gone]⟩
  | informDropped present registered ended held =>
      exact ⟨_, by
        simp [move?, inform?, present, registered, ended, dropBuild, modifyBuild, held]; rfl⟩
  | evict | clear | close => exact ⟨[], rfl⟩
  | closeFetches closed opened ended =>
      exact ⟨[], by simpa [move?, closeFetches?, closed, opened] using ended⟩
  | abandonFetches closed opened =>
      exact ⟨[], by simp [move?, abandonFetches?, closed, opened]⟩

end PageCache

end Flipbook
