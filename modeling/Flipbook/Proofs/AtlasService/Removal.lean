import Flipbook.Proofs.AtlasService.Reordering

/-!
A call for a page while others remove its atlas. The call looks its cache up under the lock of the
registry and hands its request to the cache under another one. A removal that takes the cache out
and closes it between the two makes the call fail. Without that it is as if both were one move.
-/

namespace Flipbook

namespace PageCache

variable {cache : PageCache} {request : PageRequest} {fault : Fault}

theorem request_of_open (opened : cache.buildsClosed = false) (request : PageRequest) :
    ∃ build, (cache.request request).2.outcome = .ok build := by
  cases held : Keyed.lookup? (keyFor request.identity) cache.pages with
  | some build => exact ⟨build, by rw [request_of_held held]; rfl⟩
  | none =>
      refine ⟨cache.builds.length, ?_⟩
      simp [PageCache.request, held, opened, Report.bind, Report.log, Report.ok]

theorem request_of_error (failed : (cache.request request).2.outcome = .error fault) :
    fault = .poolClosed ∧ Keyed.lookup? (keyFor request.identity) cache.pages = none ∧
      cache.buildsClosed = true ∧ (cache.request request).1 = cache := by
  cases held : Keyed.lookup? (keyFor request.identity) cache.pages with
  | some build =>
      rw [request_of_held held] at failed
      contradiction
  | none =>
      cases closed : cache.buildsClosed with
      | false =>
          obtain ⟨build, answered⟩ := request_of_open closed request
          rw [answered] at failed
          contradiction
      | true =>
          obtain ⟨same, refused⟩ := request_of_missing held closed
          exact ⟨(Except.error.inj (refused.symm.trans failed)).symm, rfl, rfl, same⟩

theorem submit_cases (cache : PageCache) (request : PageRequest) :
    (cache.submit request).1 = (cache.request request).1 ∨
      ∃ build, (cache.request request).1.register? build = some (cache.submit request).1 := by
  unfold submit
  dsimp only
  split
  next build answered =>
      cases registered : (cache.request request).1.register? build with
      | none => exact .inl rfl
      | some next => exact .inr ⟨build, registered⟩
  next => exact .inl rfl

theorem report_submit (cache : PageCache) (request : PageRequest) :
    (cache.submit request).2 = (cache.request request).2 := by
  unfold submit
  dsimp only
  split <;> rfl

theorem held_of_closed {build : Nat} (closed : cache.buildsClosed = true)
    (answered : (cache.request request).2.outcome = .ok build) :
    Keyed.lookup? (keyFor request.identity) cache.pages = some build := by
  cases held : Keyed.lookup? (keyFor request.identity) cache.pages with
  | some other =>
      rw [request_of_held held] at answered
      exact congrArg some (Except.ok.inj answered)
  | none =>
      rw [(request_of_missing held closed).2] at answered
      contradiction

end PageCache

namespace AtlasService

variable {service : AtlasService} {id : Option String} {number : Nat} {cache : PageCache}

theorem outcome_requestPage (found : (service.atlas id).2.outcome = .ok number)
    (present : (service.atlas id).1.caches[number]? = some cache) (request : PageRequest) :
    (service.requestPage id request).2.outcome =
      (cache.request request).2.outcome.map fun build => (number, build) := by
  simp only [requestPage, found, requestFrom, present, PageCache.report_submit, Report.bind]
  cases (cache.request request).2.outcome <;> rfl

theorem service_requestPage (found : (service.atlas id).2.outcome = .ok number)
    (present : (service.atlas id).1.caches[number]? = some cache) (request : PageRequest) :
    (service.requestPage id request).1 =
      (service.atlas id).1.withCache number (cache.submit request).1 := by
  simp only [requestPage, found, requestFrom, present, withCache]

namespace Shared

def isOrdinary : Step → Bool
  | .shut | .cache _ .close => false
  | _ => true

inductive Asks (shared : Shared) (number : Nat) (request : PageRequest) (build : Nat) :
    Shared → Prop
  | asked {cache : PageCache} (present : shared.service.caches[number]? = some cache)
      (answered : (cache.request request).2.outcome = .ok build) :
      Asks shared number request build
        { shared with service := shared.service.withCache number (cache.request request).1 }

theorem Asks.of_held (present : shared.service.caches[number]? = some cache)
    (held : Keyed.lookup? (PageCache.keyFor request.identity) cache.pages = some build) :
    Asks shared number request build shared := by
  have answer := PageCache.request_of_held held
  have asked : Asks shared number request build
      { shared with service := shared.service.withCache number (cache.request request).1 } :=
    .asked present (by rw [answer]; rfl)
  rwa [answer, withCache_of_present present] at asked

section

variable [Limits]

/-- Whether callers use the service and do not close it, other than by removing atlases. -/
def InUse (shared : Shared) : Prop :=
  ∃ service steps, IsNew service ∧ (∀ step ∈ steps, isOrdinary step = true) ∧
    run? { service } steps = some shared

structure Intact (shared : Shared) : Prop where
  sound : Sound shared
  opened : shared.service.closed = false
  registered : ∀ name number, Keyed.lookup? name shared.service.registry = some number →
    shared.IsOpen number

variable {shared next first middle last : Shared} {step : Step}
  {steps between : List Step} {name : String} {request : PageRequest} {build : Nat}

theorem Move.of_request (present : shared.service.caches[number]? = some cache)
    (request : PageRequest) :
    Move shared (.cache number (.request request))
      { shared with service := shared.service.withCache number (cache.request request).1 } :=
  .cache present rfl

theorem Sound.run?_requestPage (sound : Sound shared)
    (found : (shared.service.atlas id).2.outcome = .ok number) (request : PageRequest) :
    ∃ more, (∀ step ∈ more, ∃ build, step = .cache number (.register build)) ∧
      shared.run? (.atlas id :: .cache number (.request request) :: more) =
        some { shared with service := (shared.service.requestPage id request).1 } := by
  let first : Shared := { shared with service := (shared.service.atlas id).1 }
  have looked : Move shared (.atlas id) first := .of_move? rfl
  have inside := (sound.move looked).lt_length (looked.held_of_answered found)
  obtain ⟨cache, present⟩ : ∃ cache, first.service.caches[number]? = some cache :=
    ⟨_, List.getElem?_eq_getElem inside⟩
  let second : Shared :=
    { first with service := first.service.withCache number (cache.request request).1 }
  have asked : Move first _ second := .of_request present request
  rw [service_requestPage found present]
  rcases cache.submit_cases request with same | ⟨build, registered⟩
  · refine ⟨[], List.forall_mem_nil _, run?_cons_eq_some_iff.mpr ⟨first, looked, ?_⟩⟩
    rw [same]
    exact asked.run?
  · have told : (cache.request request).1.move? (.register build) =
        some ((cache.submit request).1, []) := by simp [PageCache.move?, registered]
    have there : second.service.caches[number]? = some (cache.request request).1 := by
      simp [second, withCache, inside]
    have registers : Move second (.cache number (.register build)) _ := .cache there told
    refine ⟨[.cache number (.register build)], by simp, ?_⟩
    refine run?_cons_eq_some_iff.mpr ⟨first, looked, ?_⟩
    refine run?_cons_eq_some_iff.mpr ⟨second, asked, ?_⟩
    rw [registers.run?, withCache_withCache]

theorem run?_remove (held : Keyed.lookup? name shared.service.registry = some number) :
    shared.run? [.forget name, .beginClose shared.withdrawals.length] =
      some (shared.withdraw (shared.service.remove name).1 [number]) := by
  simp [move?, AtlasService.forget, AtlasService.remove, held, withdraw, current?,
    Withdrawal.current?]

theorem Intact.of_isNew (new : IsNew service) : Intact { service } := by
  refine ⟨.of_isNew new, new.opened, fun name number held => ?_⟩
  rw [new.registry] at held
  contradiction

theorem Move.opened_kept (move : Move shared step next) (ordinary : isOrdinary step = true)
    (opened : shared.service.closed = false) : next.service.closed = false := by
  cases move with
  | shut => contradiction
  | _ => exact opened

theorem Move.isOpen_kept (move : Move shared step next) (ordinary : isOrdinary step = true)
    (isOpen : shared.IsOpen number)
    (apart : ∀ place, step = .beginClose place → shared.current? place ≠ some number) :
    next.IsOpen number := by
  obtain ⟨cache, present, opened⟩ := isOpen
  rcases move.cache_cases present with same | ⟨inner, after, touches, moved, there⟩
  · exact ⟨cache, same, opened⟩
  · cases touches with
    | cache =>
        have others : inner ≠ .close := by
          rintro rfl
          contradiction
        exact ⟨after, there, (moved.buildsClosed_eq others).trans opened⟩
    | beginClose current => exact absurd current (apart _ rfl)

theorem Intact.move (intact : Intact shared) (move : Move shared step next)
    (ordinary : isOrdinary step = true) : Intact next := by
  refine ⟨intact.sound.move move, move.opened_kept ordinary intact.opened, ?_⟩
  intro name number held
  by_cases known : Keyed.lookup? name shared.service.registry = some number
  · refine move.isOpen_kept ordinary (intact.registered name number known) ?_
    intro place _ current
    exact intact.sound.not_withdrawn known (mem_withdrawn_of_current? current)
  · cases move with
    | @made id empty opened missing created =>
        by_cases same : shared.service.effectiveId id = name
        · rw [same, Keyed.lookup?_set_self] at held
          obtain rfl := Option.some.inj held
          obtain ⟨-, rfl⟩ := PageCache.eq_of_create created
          exact ⟨_, List.getElem?_concat_length, rfl⟩
        · rw [Keyed.lookup?_set_of_ne same] at held
          contradiction
    | forget => exact absurd (Keyed.lookup?_of_erase held) known
    | shut => contradiction
    | _ => exact absurd held known

theorem Intact.run? (intact : Intact first) (ran : first.run? steps = some last)
    (ordinary : ∀ step ∈ steps, isOrdinary step = true) : Intact last :=
  run?_invariant Intact (fun _ _ _ member before move => before.move move (ordinary _ member))
    ran intact

theorem InUse.intact (inUse : InUse shared) : Intact shared := by
  obtain ⟨service, steps, new, ordinary, ran⟩ := inUse
  exact Intact.run? (.of_isNew new) ran ordinary

/-- A call that has found its cache, with all that others do before its request gets there. -/
structure Call (shared : Shared) (id : Option String) (between : List Step) (last : Shared)
    (number : Nat) (cache : PageCache) : Prop where
  found : (shared.service.atlas id).2.outcome = .ok number
  ran : shared.run? (.atlas id :: between) = some last
  ordinary : ∀ step ∈ between, isOrdinary step = true
  present : last.service.caches[number]? = some cache

def Overtaken (shared : Shared) (id : Option String) (between : List Step) (number : Nat) : Prop :=
  ∃ before after rest place looked closing,
    between = before ++ .forget (shared.service.effectiveId id) :: after ++
      .beginClose place :: rest ∧
    shared.run? (.atlas id :: before) = some looked ∧
    Keyed.lookup? (shared.service.effectiveId id) looked.service.registry = some number ∧
    shared.run? (.atlas id ::
      (before ++ .forget (shared.service.effectiveId id) :: after)) = some closing ∧
    closing.current? place = some number

/-- Whether the same moves in another order make the whole call at one time, before its atlas is
removed, with the same answer and the same end. -/
def TakesPlaceAtOnce (shared : Shared) (id : Option String) (between : List Step) (last : Shared)
    (number : Nat) (request : PageRequest) (build : Nat) : Prop :=
  ∃ earlier later moment final, (earlier ++ later).Perm between ∧
    .forget (shared.service.effectiveId id) ∉ earlier ∧
    shared.run? (.atlas id :: earlier) = some moment ∧
    moment.service.atlas id = (moment.service, .ok number) ∧
    (moment.service.requestPage id request).2.outcome = .ok (number, build) ∧
    moment.run? (.cache number (.request request) :: later) = some final ∧
    last.run? [.cache number (.request request)] = some final

theorem exists_beginClose (ran : first.run? steps = some last)
    (ordinary : ∀ step ∈ steps, isOrdinary step = true) (isOpen : first.IsOpen number)
    (closed : ¬ last.IsOpen number) :
    ∃ earlier place later middle, steps = earlier ++ .beginClose place :: later ∧
      first.run? earlier = some middle ∧ middle.IsOpen number ∧
      middle.current? place = some number := by
  induction steps generalizing first with
  | nil => exact absurd (Option.some.inj ran ▸ isOpen) closed
  | cons step steps ih =>
      obtain ⟨next, move, rest⟩ := run?_cons_eq_some_iff.mp ran
      obtain ⟨here, others⟩ := List.forall_mem_cons.mp ordinary
      by_cases still : next.IsOpen number
      · obtain ⟨earlier, place, later, middle, rfl, before, middleOpen, current⟩ :=
          ih rest others still
        exact ⟨step :: earlier, place, later, middle, rfl,
          run?_cons_eq_some_iff.mpr ⟨next, move, before⟩, middleOpen, current⟩
      · have closes : ∃ place, step = .beginClose place ∧ first.current? place = some number := by
          by_contra apart
          exact still (move.isOpen_kept here isOpen fun place same current =>
            apart ⟨place, same, current⟩)
        obtain ⟨place, rfl, current⟩ := closes
        exact ⟨[], place, steps, first, rfl, rfl, isOpen, current⟩

theorem exists_forget (ran : first.run? steps = some last)
    (held : Keyed.lookup? name first.service.registry = some number)
    (ordinary : ∀ step ∈ steps, isOrdinary step = true) (forgotten : .forget name ∈ steps) :
    ∃ earlier later middle, steps = earlier ++ .forget name :: later ∧
      .forget name ∉ earlier ∧ first.run? earlier = some middle ∧
      middle.run? (.forget name :: later) = some last ∧
      Keyed.lookup? name middle.service.registry = some number := by
  obtain ⟨earlier, later, rfl, fresh⟩ := List.eq_append_cons_of_mem forgotten
  obtain ⟨middle, before, after⟩ := run?_append_eq_some_iff.mp ran
  refine ⟨earlier, later, middle, rfl, fresh, before, after, ?_⟩
  exact run?_lookup?_kept before held fresh fun shuts =>
    Bool.noConfusion (ordinary _ (List.mem_append_left _ shuts))

theorem Move.not_isOpen {place : Nat} (move : Move shared (.beginClose place) next)
    (current : shared.current? place = some number) : ¬ next.IsOpen number := by
  rintro ⟨cache, present, opened⟩
  obtain rfl := move.unique (.beginClose current)
  obtain ⟨known, -, rfl⟩ := Option.map_eq_some_iff.mp
    ((List.getElem?_modify_eq ..).symm.trans present)
  contradiction

theorem Call.exists_start (call : Call shared id between last number cache)
    (intact : Intact shared) :
    ∃ first, Move shared (.atlas id) first ∧ Intact first ∧
      Keyed.lookup? (shared.service.effectiveId id) first.service.registry = some number ∧
      first.run? between = some last := by
  obtain ⟨first, move, rest⟩ := run?_cons_eq_some_iff.mp call.ran
  exact ⟨first, move, intact.move move rfl, move.held_of_answered call.found, rest⟩

theorem Call.overtaken_iff (call : Call shared id between last number cache)
    (intact : Intact shared) :
    Overtaken shared id between number ↔ cache.buildsClosed = true := by
  obtain ⟨first, looked, fresh, held, rest⟩ := call.exists_start intact
  have isOpen := fresh.registered _ _ held
  constructor
  · rintro ⟨before, after, later, place, -, closing, rfl, -, -, ran, current⟩
    obtain ⟨again, same, during⟩ := run?_cons_eq_some_iff.mp ran
    obtain rfl := looked.unique same
    obtain ⟨next, move, rest⟩ := run?_cons_eq_some_iff.mp (run?_rest rest during)
    have inside := Nat.lt_of_lt_of_le isOpen.lt_length
      (Nat.le_trans (run?_length_le during) move.length_le)
    have closed : ¬ last.IsOpen number :=
      mt (run?_isOpen_before rest inside) (move.not_isOpen current)
    simpa [isOpen_iff call.present] using closed
  · intro closed
    have shutDown : ¬ last.IsOpen number := by simp [isOpen_iff call.present, closed]
    obtain ⟨earlier, place, later, middle, rfl, before, -, current⟩ :=
      exists_beginClose rest call.ordinary isOpen shutDown
    have ordinary : ∀ step ∈ earlier, isOrdinary step = true :=
      fun step member => call.ordinary step (List.mem_append_left _ member)
    have forgotten : .forget (shared.service.effectiveId id) ∈ earlier := by
      by_contra kept
      have still := run?_lookup?_kept before held kept fun shuts =>
        Bool.noConfusion (ordinary _ shuts)
      exact (fresh.run? before ordinary).sound.not_withdrawn still
        (mem_withdrawn_of_current? current)
    obtain ⟨before', after, taken, rfl, -, ran, -, still⟩ :=
      exists_forget before held ordinary forgotten
    exact ⟨before', after, later, place, taken, middle, rfl,
      run?_cons_eq_some_iff.mpr ⟨first, looked, ran⟩, still,
      run?_cons_eq_some_iff.mpr ⟨first, looked, before⟩, current⟩

theorem exists_before_removal {inner : PageCache.Step} {after : Shared}
    (ran : first.run? steps = some middle) (own : Move middle (.cache number inner) after)
    (isOpen : after.IsOpen number)
    (held : Keyed.lookup? name first.service.registry = some number)
    (inside : number < first.service.caches.length)
    (ordinary : ∀ step ∈ steps, isOrdinary step = true) :
    ∃ earlier later moment, (earlier ++ later).Perm steps ∧ .forget name ∉ earlier ∧
      first.run? earlier = some moment ∧
      Keyed.lookup? name moment.service.registry = some number ∧
      moment.service.caches[number]? = middle.service.caches[number]? ∧
      moment.run? (.cache number inner :: later) = some after := by
  by_cases forgotten : .forget name ∈ steps
  · obtain ⟨before, others, taken, rfl, fresh, begun, rest, still⟩ :=
      exists_forget ran held ordinary forgotten
    obtain ⟨moment, mine, same, following⟩ :=
      run?_advance rest own (Nat.lt_of_lt_of_le inside (run?_length_le begun)) isOpen
    have owned : ∀ step ∈ (Step.forget name :: others).filter (isOn number),
        isOn number step = true := fun _ member => (List.mem_filter.mp member).2
    refine ⟨before ++ (Step.forget name :: others).filter (isOn number), _, moment, ?_, ?_,
      run?_append_eq_some_iff.mpr ⟨taken, begun, mine⟩, ?_, same, following⟩
    · rw [List.append_assoc]
      exact List.Perm.append_left before (List.filter_append_perm _ _)
    · intro member
      rcases List.mem_append.mp member with early | late
      · exact fresh early
      · exact Bool.noConfusion (owned _ late)
    · exact run?_lookup?_kept mine still (fun late => Bool.noConfusion (owned _ late))
        fun late => Bool.noConfusion (owned _ late)
  · refine ⟨steps, [], middle, by simp, forgotten, ran, ?_, rfl, own.run?⟩
    exact run?_lookup?_kept ran held forgotten fun shuts => Bool.noConfusion (ordinary _ shuts)

theorem Asks.move (asks : Asks shared number request build next) :
    Move shared (.cache number (.request request)) next := by
  cases asks with
  | asked present => exact .of_request present request

theorem run?_held_before {key : Int} {final : PageCache} (ran : first.run? steps = some last)
    (present : first.service.caches[number]? = some cache) (closed : cache.buildsClosed = true)
    (there : last.service.caches[number]? = some final)
    (held : Keyed.lookup? key final.pages = some build) :
    Keyed.lookup? key cache.pages = some build := by
  induction steps generalizing first cache with
  | nil =>
      obtain rfl := Option.some.inj ran
      obtain rfl := Option.some.inj (present.symm.trans there)
      exact held
  | cons step steps ih =>
      obtain ⟨next, move, rest⟩ := run?_cons_eq_some_iff.mp ran
      rcases move.cache_cases present with same | ⟨inner, after, -, moved, here⟩
      · exact ih rest same closed
      · exact moved.lookup?_of_closed closed (ih rest here (moved.buildsClosed closed))

theorem exists_open (ran : first.run? steps = some last)
    (ordinary : ∀ step ∈ steps, isOrdinary step = true) (isOpen : first.IsOpen number)
    (present : last.service.caches[number]? = some cache)
    (answered : (cache.request request).2.outcome = .ok build) :
    ∃ earlier later middle after final, steps = earlier ++ later ∧
      first.run? earlier = some middle ∧ middle.IsOpen number ∧
      Asks middle number request build after ∧ after.run? later = some final ∧
      Asks last number request build final := by
  cases closed : cache.buildsClosed with
  | false =>
      exact ⟨steps, [], last, _, _, by simp, ran, ⟨cache, present, closed⟩,
        .asked present answered, rfl, .asked present answered⟩
  | true =>
      have held := PageCache.held_of_closed closed answered
      have shutDown : ¬ last.IsOpen number := by simp [isOpen_iff present, closed]
      obtain ⟨earlier, place, later, middle, rfl, before, ⟨known, there, opened⟩, current⟩ :=
        exists_beginClose ran ordinary isOpen shutDown
      have rest := run?_rest ran before
      obtain ⟨next, move, after⟩ := run?_cons_eq_some_iff.mp rest
      have begun : next.service.caches[number]? = some known.close := by
        obtain rfl := move.unique (.beginClose current)
        simp [closeCache, there]
      have heldBefore : Keyed.lookup? (PageCache.keyFor request.identity) known.close.pages =
          some build := run?_held_before after begun rfl present held
      exact ⟨earlier, _, middle, middle, last, rfl, before, ⟨known, there, opened⟩,
        .of_held there heldBefore, rest, .of_held present held⟩

theorem Call.takesPlaceAtOnce (call : Call shared id between last number cache)
    (intact : Intact shared) (answered : (cache.request request).2.outcome = .ok build) :
    TakesPlaceAtOnce shared id between last number request build := by
  obtain ⟨first, looked, fresh, held, rest⟩ := call.exists_start intact
  have isOpen := fresh.registered _ _ held
  obtain ⟨before, others, middle, after, final, rfl, ran, middleOpen, asks, ending, asksLast⟩ :=
    exists_open rest call.ordinary isOpen call.present answered
  obtain ⟨earlier, later, moment, perm, kept, toMoment, heldThere, same, fromMoment⟩ :=
    exists_before_removal ran asks.move (asks.move.isOpen_kept rfl middleOpen nofun) held
      isOpen.lt_length fun step member => call.ordinary step (List.mem_append_left _ member)
  have whole : shared.run? (.atlas id :: earlier) = some moment :=
    run?_cons_eq_some_iff.mpr ⟨first, looked, toMoment⟩
  have intactThere : Intact moment := by
    refine fresh.run? toMoment fun step member => call.ordinary step ?_
    exact List.mem_append_left _ (perm.subset (List.mem_append_left _ member))
  have again : moment.service.atlas id = (moment.service, .ok number) := by
    refine atlas_of_held intactThere.opened ?_
    rw [effectiveId_eq whole]
    exact heldThere
  refine ⟨earlier, later ++ others, moment, final, ?_, kept, whole, again, ?_, ?_,
    asksLast.move.run?⟩
  · rw [← List.append_assoc]
    exact perm.append_right others
  · cases asks with
    | asked present given =>
        rw [outcome_requestPage (by rw [again]; rfl) (by rw [again]; exact same.trans present),
          given]
        rfl
  · exact run?_append_eq_some_iff.mpr ⟨after, fromMoment, ending⟩

theorem Intact.race (intact : Intact shared)
    (found : (shared.service.atlas id).2.outcome = .ok number)
    (missing : ∀ cache, (shared.service.atlas id).1.caches[number]? = some cache →
      Keyed.lookup? (PageCache.keyFor request.identity) cache.pages = none) :
    ∃ place last cache,
      Call shared id [.forget (shared.service.effectiveId id), .beginClose place] last number
        cache ∧ (cache.request request).2.outcome = .error .poolClosed := by
  let name := shared.service.effectiveId id
  let first : Shared := { shared with service := (shared.service.atlas id).1 }
  have looked : Move shared (.atlas id) first := .of_move? rfl
  have held := looked.held_of_answered found
  obtain ⟨cache, present, -⟩ := (intact.move looked rfl).registered name number held
  have closed : (first.service.remove name).1.caches[number]? = some cache.close := by
    simp [remove, AtlasService.forget, held, name, closeCache, present]
  let last : Shared := first.withdraw (first.service.remove name).1 [number]
  refine ⟨first.withdrawals.length, last, cache.close,
    ⟨found, ?_, by simp [isOrdinary], closed⟩, ?_⟩
  · exact run?_cons_eq_some_iff.mpr ⟨first, looked, run?_remove held⟩
  · have stillMissing : Keyed.lookup? (PageCache.keyFor request.identity) cache.close.pages =
        none := missing cache present
    exact (PageCache.request_of_missing stillMissing rfl).2

theorem Intact.whole (intact : Intact shared) (workers : 0 < shared.service.workers)
    (id : Option String) (request : PageRequest) :
    ∃ number build, (shared.service.requestPage id request).2.outcome = .ok (number, build) := by
  obtain ⟨number, found⟩ := atlas_answers intact.opened workers id
  have looked : Move shared (.atlas id) _ := .of_move? rfl
  obtain ⟨cache, present, opened⟩ :=
    (intact.move looked rfl).registered _ number (looked.held_of_answered found)
  obtain ⟨build, answered⟩ := PageCache.request_of_open opened request
  refine ⟨number, build, ?_⟩
  rw [outcome_requestPage found present, answered]
  rfl

/-- What a call for a page meets, if its atlas may be removed after its lookup. -/
structure MeetsRemovals (shared : Shared) : Prop where
  whole : 0 < shared.service.workers → ∀ id request, ∃ number build,
    (shared.service.requestPage id request).2.outcome = .ok (number, build)
  fails_iff : ∀ id between last number cache, Call shared id between last number cache →
    ∀ request, (cache.request request).2.outcome = .error .poolClosed ↔
      Keyed.lookup? (PageCache.keyFor request.identity) cache.pages = none ∧
        Overtaken shared id between number
  failed : ∀ id between last number cache, Call shared id between last number cache →
    ∀ request fault, (cache.request request).2.outcome = .error fault →
      fault = .poolClosed ∧ last.run? [.cache number (.request request)] = some last
  atomic : ∀ id between last number cache, Call shared id between last number cache →
    ∀ request build, (cache.request request).2.outcome = .ok build →
      TakesPlaceAtOnce shared id between last number request build
  race : ∀ id number request, (shared.service.atlas id).2.outcome = .ok number →
    (∀ cache, (shared.service.atlas id).1.caches[number]? = some cache →
      Keyed.lookup? (PageCache.keyFor request.identity) cache.pages = none) →
    ∃ place last cache,
      Call shared id [.forget (shared.service.effectiveId id), .beginClose place] last number
        cache ∧ (cache.request request).2.outcome = .error .poolClosed

theorem InUse.meetsRemovals (inUse : InUse shared) : MeetsRemovals shared where
  whole := inUse.intact.whole
  fails_iff id between last number cache call request := by
    rw [call.overtaken_iff inUse.intact]
    constructor
    · intro failed
      obtain ⟨-, missing, closed, -⟩ := PageCache.request_of_error failed
      exact ⟨missing, closed⟩
    · rintro ⟨missing, closed⟩
      exact (PageCache.request_of_missing missing closed).2
  failed id between last number cache call request fault failed := by
    obtain ⟨rfl, -, -, same⟩ := PageCache.request_of_error failed
    have moved := Move.of_request call.present request
    rw [same, withCache_of_present call.present] at moved
    exact ⟨rfl, moved.run?⟩
  atomic _ _ _ _ _ call _ _ := call.takesPlaceAtOnce inUse.intact
  race _ _ _ := inUse.intact.race

end

theorem meetsRemovals_of_two_calls : ∃ shared last cache, InUse shared ∧
    Call shared none [.forget "defaultAtlas", .beginClose 0] last 0 cache ∧
      (cache.request { identity := "hero", metadata := .none }).2.outcome = .ok 0 ∧
      (cache.request { identity := "villain", metadata := .none }).2.outcome =
        .error .poolClosed ∧ MeetsRemovals shared := by
  have inUse : InUse _ :=
    ⟨{ workers := 1 },
      [.atlas none, .cache 0 (.request { identity := "hero", metadata := .none })],
      ⟨rfl, rfl, rfl⟩, by simp [isOrdinary], rfl⟩
  exact ⟨_, _, _, inUse, ⟨rfl, rfl, by simp [isOrdinary], rfl⟩, rfl, rfl, inUse.meetsRemovals⟩

end Shared

end AtlasService

end Flipbook
