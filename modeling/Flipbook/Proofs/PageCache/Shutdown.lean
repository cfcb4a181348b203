import Flipbook.Proofs.PageCache.Liveness
import Flipbook.Proofs.PageCache.SingleFlight
import Flipbook.Proofs.PageCache.StrayLoads

/-!
Closing a cache and waiting for its pools. All that was accepted before goes on as if nobody had
closed the cache, and what is asked for after it changes nothing any more.
-/

namespace Flipbook.PageCache

/-- Whether a caller who closes the cache and waits has nothing more to wait for. -/
structure IsShut (cache : PageCache) : Prop where
  buildsClosed : cache.buildsClosed = true
  fetchesClosed : cache.fetchesClosed = true
  ended : cache.AllBuilds (·.phase.isResolved = true)
  idle : ∀ build resource, (cache.fetchOf build resource).isOutstanding = false

def isShut (cache : PageCache) : Bool :=
  cache.buildsClosed && cache.fetchesClosed && cache.builds.all fun known =>
    known.phase.isResolved && !known.metadata.isOutstanding && !known.image.isOutstanding

def reopened (cache : PageCache) : PageCache :=
  { cache with buildsClosed := false, fetchesClosed := false }

/-- Whether an event is left in a run in which nobody closes the cache. Then there is no closing,
and nobody is refused for it. -/
def Event.remains (event : Event) : Bool :=
  match event.step, event.answer? with
  | .close, _ | .closeFetches, _ | .abandonFetches, _ => false
  | .request _, some (.error _) => false
  | _, _ => true

variable {cache next first last : PageCache} {step : Step} {event : Event} {events : List Event}
  {build : Nat} {known : Build} {request : PageRequest}

theorem isShut_iff : cache.isShut = true ↔ IsShut cache := by
  simp only [isShut, Bool.and_eq_true, Bool.not_eq_true', List.all_eq_true]
  constructor
  · rintro ⟨⟨buildsClosed, fetchesClosed⟩, all⟩
    refine ⟨buildsClosed, fetchesClosed,
      fun _ _ present => (all _ (List.mem_of_getElem? present)).1.1, ?_⟩
    intro build resource
    cases present : cache.builds[build]? with
    | none =>
        rw [fetchOf, present]
        rfl
    | some known =>
        have settled := all known (List.mem_of_getElem? present)
        rw [fetchOf_of_present present]
        cases resource with
        | metadata => exact settled.1.2
        | image => exact settled.2
  · rintro ⟨buildsClosed, fetchesClosed, ended, idle⟩
    refine ⟨⟨buildsClosed, fetchesClosed⟩, fun known member => ?_⟩
    obtain ⟨build, present⟩ := List.getElem?_of_mem member
    have settled : ∀ resource, (known.fetch resource).isOutstanding = false := by
      intro resource
      rw [← fetchOf_of_present present]
      exact idle build resource
    exact ⟨⟨ended build known present, settled .metadata⟩, settled .image⟩

theorem request_of_missing (missing : Keyed.lookup? (keyFor request.identity) cache.pages = none)
    (closed : cache.buildsClosed = true) :
    (cache.request request).1 = cache ∧
      (cache.request request).2.outcome = .error .poolClosed := by
  simp [PageCache.request, missing, closed, Report.bind, Report.log, Report.fail]

theorem Event.remains_of_request (asked : event.step = .request request) :
    event.remains = (event.before.request request).2.outcome.isOk := by
  simp only [Event.remains, Event.answer?, asked]
  cases (event.before.request request).2.outcome <;> rfl

section

variable [Limits]

theorem IsStill.idle (still : IsStill cache) (reachable : Reachable cache) (build : Nat)
    (resource : Resource) : (cache.fetchOf build resource).isOutstanding = false := by
  have sound := reachable.fetchesSound
  cases present : cache.builds[build]? with
  | none =>
      rw [fetchOf, present]
      rfl
  | some known =>
      rw [fetchOf_of_present present]
      cases fetch : known.fetch resource with
      | absent | finished => rfl
      | queued =>
          have waiting := (sound.mem_iff build resource).mpr
            ((fetchOf_of_present present resource).trans fetch)
          rw [still.queue_eq_nil sound reachable.workers_pos] at waiting
          contradiction
      | running => exact absurd fetch (still.not_running present resource)

theorem IsStill.isShut (still : IsStill cache) (reachable : Reachable cache)
    (buildsClosed : cache.buildsClosed = true) (fetchesClosed : cache.fetchesClosed = true) :
    IsShut cache :=
  ⟨buildsClosed, fetchesClosed,
    fun _ _ present => still.isResolved reachable.fetchesSound reachable.workers_pos present,
    still.idle reachable⟩

theorem IsShut.isOwn_eq_false (shut : IsShut cache) (sound : FetchesSound cache)
    (move : Move cache step next) : step.isOwn = false := by
  have notRunning : ∀ (build : Nat) (known : Build), cache.builds[build]? = some known →
      known.phase ≠ .running := by
    intro build known present running
    have ended := shut.ended build known present
    simp [running, Phase.isResolved] at ended
  cases move with
  | startBuild idle waiting =>
      obtain ⟨inside, queued, -⟩ := List.findIdx?_eq_some_iff_getElem.mp waiting
      have ended := shut.ended _ _ (List.getElem?_eq_getElem inside)
      simp [Phase.isQueued_iff.mp queued, Phase.isResolved] at ended
  | askFetch present running | refuseFetch present running | finishBuild present running =>
      exact absurd running (notRunning _ _ present)
  | @startFetch build known resource waiting idle queue present =>
      have outstanding := shut.idle build resource
      rw [(sound.mem_iff build resource).mp (queue ▸ List.mem_cons_self)] at outstanding
      contradiction
  | @finishFetch build known resource result present running =>
      have outstanding := shut.idle build resource
      rw [fetchOf_of_present present, running] at outstanding
      contradiction
  | _ => rfl

theorem Move.fetches_eq (move : Move cache step next) (own : step.isOwn = false) :
    next.fetchOf = cache.fetchOf ∧ next.loads = cache.loads := by
  cases move with
  | found | rejected | evict | clear | close | closeFetches | abandonFetches => exact ⟨rfl, rfl⟩
  | accepted => exact ⟨fetchOf_append .., rfl⟩
  | register | informSuccess | informStale | informDropped =>
      exact ⟨fetchOf_modifyBuild _ _ fun _ resource => by cases resource <;> rfl, rfl⟩
  | _ => contradiction

theorem Move.fetchesClosed_kept (move : Move cache step next)
    (closed : cache.fetchesClosed = true) : next.fetchesClosed = true := by
  cases move with
  | closeFetches | abandonFetches => rfl
  | _ => exact closed

theorem IsShut.move (shut : IsShut cache) (sound : FetchesSound cache)
    (move : Move cache step next) : IsShut next ∧ next.loads = cache.loads := by
  obtain ⟨fetches, loads⟩ := move.fetches_eq (shut.isOwn_eq_false sound move)
  refine ⟨⟨move.buildsClosed shut.buildsClosed, move.fetchesClosed_kept shut.fetchesClosed,
    move.ended_of_closed sound shut.buildsClosed shut.ended, ?_⟩, loads⟩
  simpa only [fetches] using shut.idle

theorem Trace.isShut (trace : Trace first events last) (sound : FetchesSound first)
    (shut : IsShut first) : IsShut last ∧ last.loads = first.loads := by
  induction trace with
  | nil => exact ⟨shut, rfl⟩
  | cons moved _ ih =>
      have move := Move.of_move? moved
      obtain ⟨after, loads⟩ := shut.move sound move
      obtain ⟨kept, same⟩ := ih (sound.move move) after
      exact ⟨kept, same.trans loads⟩

theorem Trace.buildsClosed (trace : Trace first events last)
    (closed : first.buildsClosed = true) : last.buildsClosed = true :=
  trace.invariant (fun _ _ _ before move => move.buildsClosed before) closed

theorem Trace.lookup?_of_closed {key : Int} (trace : Trace first events last)
    (closed : first.buildsClosed = true) (held : Keyed.lookup? key last.pages = some build) :
    Keyed.lookup? key first.pages = some build := by
  induction trace with
  | nil => exact held
  | cons moved _ ih =>
      have move := Move.of_move? moved
      exact move.lookup?_of_closed closed (ih (move.buildsClosed closed) held)

theorem Event.reopened (orderly : Orderly event.before) (waits : event.step ≠ .abandonFetches)
    (moved : event.before.move? event.step = some (event.after, event.notices)) :
    (event.remains = true ∧ Move event.before.reopened event.step event.after.reopened) ∨
      (event.remains = false ∧ event.after.reopened = event.before.reopened) := by
  obtain ⟨before, step, after, notices⟩ := event
  have move := Move.of_move? moved
  dsimp only at orderly waits move ⊢
  cases move with
  | found held =>
      refine .inl ⟨?_, .found held⟩
      rw [remains_of_request rfl, request_of_held held]
      rfl
  | rejected missing closed =>
      refine .inr ⟨?_, rfl⟩
      rw [remains_of_request rfl, (request_of_missing missing closed).2]
      rfl
  | accepted missing opened =>
      refine .inl ⟨?_, .accepted missing rfl⟩
      rw [remains_of_request rfl]
      simp [PageCache.request, missing, opened, Report.bind, Report.log, Report.ok, Except.isOk,
        Except.toBool]
  | close | closeFetches => exact .inr ⟨rfl, rfl⟩
  | abandonFetches => contradiction
  | refuseFetch present running _ closed =>
      have ended := orderly.ended closed _ _ present
      simp [running, Phase.isResolved] at ended
  | register present evicts unregistered =>
      exact .inl ⟨rfl, .register present evicts unregistered⟩
  | startBuild idle waiting => exact .inl ⟨rfl, .startBuild idle waiting⟩
  | askFetch present running unasked => exact .inl ⟨rfl, .askFetch present running unasked rfl⟩
  | startFetch idle queue present => exact .inl ⟨rfl, .startFetch idle queue present⟩
  | finishFetch present running => exact .inl ⟨rfl, .finishFetch present running⟩
  | finishBuild present running joined => exact .inl ⟨rfl, .finishBuild present running joined⟩
  | informSuccess present registered ended =>
      exact .inl ⟨rfl, .informSuccess present registered ended⟩
  | informStale present registered ended gone =>
      exact .inl ⟨rfl, .informStale present registered ended gone⟩
  | informDropped present registered ended held =>
      exact .inl ⟨rfl, .informDropped present registered ended held⟩
  | evict => exact .inl ⟨rfl, .evict⟩
  | clear => exact .inl ⟨rfl, .clear⟩

/-- Without its closings a run ends in the same way, as long as everyone waited for the builds. -/
theorem Trace.reopened (trace : Trace first events last) (sound : FetchesSound first)
    (orderly : Orderly first) (waits : ∀ event ∈ events, event.step ≠ .abandonFetches) :
    ∃ others, Trace first.reopened others last.reopened ∧
      others.map (·.step) = (events.filter Event.remains).map (·.step) := by
  induction trace with
  | nil => exact ⟨[], .nil _, rfl⟩
  | @cons event events last moved _ ih =>
      have move := Move.of_move? moved
      have waited := waits event List.mem_cons_self
      obtain ⟨others, rest, steps⟩ := ih (sound.move move) (orderly.move sound waited move)
        fun event member => waits event (List.mem_cons_of_mem _ member)
      rcases event.reopened orderly waited moved with ⟨remains, again⟩ | ⟨gone, same⟩
      · obtain ⟨notices, again⟩ := again.possible
        refine ⟨_, .step again rest, ?_⟩
        rw [List.map_cons, steps, List.filter_cons_of_pos remains, List.map_cons]
      · refine ⟨others, same ▸ rest, ?_⟩
        rw [steps, List.filter_cons_of_neg (by simp [gone])]

theorem Reachable.exists_shut (reachable : Reachable cache) (closed : cache.buildsClosed = true) :
    ∃ more final, Trace cache more final ∧
      (∀ event ∈ more, event.step.isOwn = true ∨ event.step = .closeFetches) ∧ IsShut final := by
  obtain ⟨more, settled, trace, own, still⟩ := reachable.exists_still
  have after := reachable.trace trace
  have buildsClosed := trace.buildsClosed closed
  cases fetchesClosed : settled.fetchesClosed with
  | true =>
      exact ⟨more, settled, trace, fun event member => .inl (own event member),
        still.isShut after buildsClosed fetchesClosed⟩
  | false =>
      have ended : ∀ known ∈ settled.builds, known.phase.isResolved = true := by
        intro known member
        obtain ⟨build, present⟩ := List.getElem?_of_mem member
        exact still.isResolved after.fetchesSound after.workers_pos present
      obtain ⟨notices, moved⟩ := (Move.closeFetches buildsClosed fetchesClosed ended).possible
      refine ⟨_, _, trace.append (.step moved (.nil _)), ?_, buildsClosed, rfl,
        fun _ _ present => ended _ (List.mem_of_getElem? present), still.idle after⟩
      intro event member
      rcases List.mem_append.mp member with before | closing
      · exact .inl (own event before)
      · exact .inr (List.mem_singleton.mp closing ▸ rfl)

theorem Event.after_of_close
    (moved : event.before.move? event.step = some (event.after, event.notices))
    (closes : event.step = .close) : event.after = event.before.close := by
  simp only [closes, move?, Option.some.injEq, Prod.mk.injEq] at moved
  exact moved.1.symm

/-- What one who closes the cache in a run can rely on, and those who ask for a page after it. -/
structure ClosesGracefully (first : PageCache) (events : List Event) (last : PageCache) : Prop where
  returns : ∃ more final, Trace last more final ∧
    (∀ event ∈ more, event.step.isOwn = true ∨ event.step = .closeFetches) ∧ IsShut final
  resolved : IsShut last → ∀ event ∈ events, ∀ request build, event.Answers request build →
    ∃ known outcome, last.builds[build]? = some known ∧ known.phase = .resolved outcome
  accepted : (∀ event ∈ events, event.step ≠ .abandonFetches) → IsShut last →
    ∀ known ∈ last.builds, ∀ resource, ∃ outcome, known.fetch resource = .finished outcome
  unaffected : (∀ event ∈ events, event.step ≠ .abandonFetches) →
    ∃ others, Trace first others last.reopened ∧
      others.map (·.step) = (events.filter Event.remains).map (·.step)
  sequential : ∀ results, (∀ event ∈ events, event.Follows results) →
    ∀ (build : Nat) (known : Build) (outcome : Except Fault Page),
      last.builds[build]? = some known → known.phase = .resolved outcome →
        outcome = known.request.sequential results last.order ∨
          (outcome = .error .poolClosed ∧ ∃ event ∈ events, event.step = .abandonFetches)
  repeated : ∀ event ∈ events, event.step = .close → event.before.buildsClosed = true →
    event.after = event.before
  silent : IsShut last → ∀ more final, Trace last more final → final.loads = last.loads
  served : ∀ more final, Trace last more final → ∀ request build,
    Keyed.lookup? (keyFor request.identity) final.pages = some build →
      final.request request = (final, .ok build)
  refused : ∀ more final, Trace last more final → ∀ request,
    Keyed.lookup? (keyFor request.identity) final.pages = none →
      (final.request request).1 = final ∧
        (final.request request).2.outcome = .error .poolClosed
  shrinks : ∀ more final, Trace last more final → ∀ key build,
    Keyed.lookup? key final.pages = some build → Keyed.lookup? key last.pages = some build

theorem Trace.closesGracefully {workers : Int} {evictsFailed : Bool} {order : Groups.Order}
    {closing : Event} (created : create workers evictsFailed order = .ok first)
    (trace : Trace first events last) (member : closing ∈ events)
    (closes : closing.step = .close) : ClosesGracefully first events last := by
  have reachable : Reachable last := ⟨_, _, _, _, _, created, trace⟩
  have closed : last.buildsClosed = true := by
    obtain ⟨earlier, later, -, -, moved, after⟩ := trace.around member
    refine after.buildsClosed ?_
    rw [Event.after_of_close moved closes]
    rfl
  constructor
  · exact reachable.exists_shut closed
  · intro shut event among request build answers
    obtain ⟨known, present, -⟩ := answers.exists_build created trace among
    have ended := shut.ended build known present
    cases phase : known.phase with
    | resolved outcome => exact ⟨known, outcome, present, phase⟩
    | _ => simp [phase, Phase.isResolved] at ended
  · intro waits shut known among resource
    obtain ⟨build, present⟩ := List.getElem?_of_mem among
    have asked := (trace.orderly created waits).asked build known present
      (shut.ended build known present)
    have settled := shut.idle build resource
    rw [fetchOf_of_present present] at settled
    cases fetch : known.fetch resource with
    | absent => exact absurd fetch (Build.fetch_of_unasked?_eq_none asked resource)
    | finished outcome => exact ⟨outcome, rfl⟩
    | _ =>
        rw [fetch] at settled
        contradiction
  · intro waits
    have fresh : first.reopened = first := by
      rw [(eq_of_create created).2]
      rfl
    have others := trace.reopened (.of_create created) (.of_create created) waits
    rwa [fresh] at others
  · intro results given build known outcome present ended
    rw [trace.order_eq created]
    exact trace.outcome_eq_or_abandoned created given present ended
  · intro event among again before
    obtain ⟨earlier, later, -, -, moved, -⟩ := trace.around among
    rw [Event.after_of_close moved again, close, ← before]
  · exact fun shut more final after => (after.isShut reachable.fetchesSound shut).2
  · exact fun _ final _ request build held => request_of_held held
  · exact fun more final after request missing =>
      request_of_missing missing (after.buildsClosed closed)
  · exact fun more final after key build held => after.lookup?_of_closed closed held

end

theorem closesGracefully_of_queued_build : ∃ first events last closing,
    create 1 false .byName = .ok first ∧ Trace first events last ∧ closing ∈ events ∧
      closing.step = .close ∧ closing.before.builds.map (·.phase.isQueued) = [false, true] ∧
      IsShut last ∧ last.pages.map (·.2) = [0, 1] ∧ ClosesGracefully first events last := by
  have created : create 1 false .byName = .ok { workers := 1 } := rfl
  have trace : Trace { workers := 1 }
      [⟨_, .request { identity := "hero", metadata := .none }, _, _⟩,
        ⟨_, .request { identity := "villain", metadata := .none }, _, _⟩,
        ⟨_, .startBuild, _, _⟩,
        ⟨_, .close, _, _⟩,
        ⟨_, .request { identity := "ogre", metadata := .none }, _, _⟩,
        ⟨_, .askFetch 0, _, _⟩,
        ⟨_, .askFetch 0, _, _⟩,
        ⟨_, .startFetch, _, _⟩,
        ⟨_, .startFetch, _, _⟩,
        ⟨_, .finishFetch 0 .metadata (.fail .malformedJson), _, _⟩,
        ⟨_, .finishBuild 0, _, _⟩,
        ⟨_, .startBuild, _, _⟩,
        ⟨_, .askFetch 1, _, _⟩,
        ⟨_, .askFetch 1, _, _⟩,
        ⟨_, .finishFetch 0 .image (.fail .unreachableUrl), _, _⟩,
        ⟨_, .startFetch, _, _⟩,
        ⟨_, .startFetch, _, _⟩,
        ⟨_, .finishFetch 1 .metadata (.fail .malformedJson), _, _⟩,
        ⟨_, .finishFetch 1 .image (.fail .unreachableUrl), _, _⟩,
        ⟨_, .finishBuild 1, _, _⟩,
        ⟨_, .closeFetches, _, _⟩] _ :=
    .step rfl (.step rfl (.step rfl (.step rfl (.step rfl (.step rfl (.step rfl (.step rfl
      (.step rfl (.step rfl (.step rfl (.step rfl (.step rfl (.step rfl (.step rfl (.step rfl
      (.step rfl (.step rfl (.step rfl (.step rfl (.step rfl (.nil _)))))))))))))))))))))
  have closing := trace.closesGracefully created (.tail _ (.tail _ (.tail _ (.head _)))) rfl
  exact ⟨_, _, _, _, created, trace, .tail _ (.tail _ (.tail _ (.head _))), rfl, rfl,
    isShut_iff.mp rfl, rfl, closing⟩

end Flipbook.PageCache
