import Flipbook.Proofs.PageCache.Pages
import Mathlib.Data.List.Forall2

/-!
Single flight: requests for one key share a build as long as its page is kept, and nothing is built
or loaded twice for them.
-/

namespace Flipbook.PageCache

namespace Event

def answer? (event : Event) : Option (Except Fault Nat) :=
  match event.step with
  | .request request => some (event.before.request request).2.outcome
  | _ => none

def Answers (event : Event) (request : PageRequest) (build : Nat) : Prop :=
  event.step = .request request ∧ event.answer? = some (.ok build)

def misses (event : Event) : Bool :=
  match event.step with
  | .request request => !Keyed.contains event.before.pages (keyFor request.identity)
  | _ => false

def submitted? (event : Event) : Option (PageRequest × Nat) :=
  match event.step, event.answer? with
  | .request request, some (.ok build) => if event.misses then some (request, build) else none
  | _, _ => none

/-- The same event, except that a request which found a page may have been made with other
sources and other definitions. -/
inductive Interchangeable : Event → Event → Prop
  | same (event : Event) : Interchangeable event event
  | found {event : Event} {request other : PageRequest} (asked : event.step = .request request)
      (hit : event.misses = false) (key : keyFor other.identity = keyFor request.identity) :
      Interchangeable event { event with step := .request other }

end Event

variable {cache first last : PageCache} {event : Event} {events others : List Event}
  {request : PageRequest} {build : Nat}

theorem request_of_held (held : Keyed.lookup? (keyFor request.identity) cache.pages = some build) :
    cache.request request = (cache, .ok build) := by
  simp [PageCache.request, held]

theorem lookup?_of_answered (answered : (cache.request request).2.outcome = .ok build) :
    Keyed.lookup? (keyFor request.identity) (cache.request request).1.pages = some build := by
  unfold PageCache.request at answered ⊢
  dsimp only at answered ⊢
  split at answered
  next kept held =>
      rw [held]
      exact congrArg some (Except.ok.inj answered)
  next missing =>
      split at answered
      next closed => simp [Report.bind, Report.log, Report.fail] at answered
      next opened =>
          simp only [Report.bind, Report.log, Report.ok, Except.ok.injEq] at answered
          simp [opened, answered]

theorem map_request_modifyBuild (cache : PageCache) (build : Nat) {change : Build → Build}
    (kept : ∀ known, (change known).request = known.request) :
    (cache.modifyBuild build change).builds.map (·.request) = cache.builds.map (·.request) := by
  apply List.ext_getElem?
  intro other
  rw [List.getElem?_map, List.getElem?_map, getElem?_modifyBuild]
  by_cases same : build = other
  · cases cache.builds[other]? <;> simp [same, kept]
  · simp [same]

def submissions (events : List Event) : List (PageRequest × Nat) :=
  events.filterMap Event.submitted?

theorem submissions_cons (event : Event) (events : List Event) :
    submissions (event :: events) = event.submitted?.toList ++ submissions events := by
  rw [submissions, List.filterMap_cons]
  cases event.submitted? <;> rfl

section

variable [Limits]

theorem Trace.shares {between later : List Event} {former latter : Event}
    {earlier : PageRequest} {build other : Nat}
    (trace : Trace first (former :: (between ++ latter :: later)) last)
    (answers : former.Answers earlier build) (again : latter.Answers request other)
    (key : keyFor earlier.identity = keyFor request.identity) :
    build = other ∨ ∃ event ∈ between, event.Removes (keyFor request.identity) := by
  obtain ⟨-, moved, rest⟩ := Trace.cons_iff.mp trace
  obtain ⟨middle, during, after⟩ := rest.split
  obtain ⟨rfl, -, -⟩ := Trace.cons_iff.mp after
  have held : Keyed.lookup? (keyFor request.identity) former.after.pages = some build := by
    obtain ⟨asked, answered⟩ := answers
    simp only [asked, move?, Option.some.injEq, Prod.mk.injEq] at moved
    rw [Event.answer?, asked, Option.some.injEq] at answered
    rw [← key, ← moved.1]
    exact lookup?_of_answered answered
  rcases during.lookup?_pages held with kept | removed
  · obtain ⟨asked, answered⟩ := again
    rw [Event.answer?, asked, Option.some.injEq, request_of_held kept] at answered
    exact .inl (Except.ok.inj answered)
  · exact .inr removed

theorem Event.submitted?_cases
    (moved : event.before.move? event.step = some (event.after, event.notices)) :
    (event.submitted? = none ∧
        event.after.builds.map (·.request) = event.before.builds.map (·.request)) ∨
      ∃ request, event.misses = true ∧
        event.submitted? = some (request, event.before.builds.length) ∧
        event.after.builds = event.before.builds ++ [{ request := request }] := by
  obtain ⟨before, step, after, notices⟩ := event
  have move := Move.of_move? moved
  dsimp only at move ⊢
  cases move with
  | found held =>
      refine .inl ⟨?_, rfl⟩
      simp [submitted?, answer?, misses, Keyed.contains, held, request_of_held held, Report.ok]
  | rejected missing closed =>
      refine .inl ⟨?_, rfl⟩
      simp [submitted?, answer?, PageCache.request, missing, closed, Report.bind, Report.log,
        Report.fail]
  | accepted missing opened =>
      refine .inr ⟨_, by simp [misses, Keyed.contains, missing], ?_, rfl⟩
      simp [submitted?, answer?, misses, Keyed.contains, PageCache.request, missing, opened,
        Report.bind, Report.log, Report.ok]
  | evict | clear | close | closeFetches | abandonFetches => exact .inl ⟨rfl, rfl⟩
  | _ => exact .inl ⟨rfl, map_request_modifyBuild _ _ fun _ => by simp⟩

theorem Trace.zipIdx_builds (trace : Trace first events last) :
    (last.builds.map (·.request)).zipIdx =
      (first.builds.map (·.request)).zipIdx ++ submissions events := by
  induction trace with
  | nil => simp [submissions]
  | @cons event events last moved _ ih =>
      rw [ih, submissions_cons]
      rcases Event.submitted?_cases moved with ⟨none, same⟩ | ⟨request, -, submitted, added⟩
      · rw [none, same, Option.toList_none, List.nil_append]
      · rw [submitted, added, Option.toList_some]
        simp [List.zipIdx_append]

theorem Trace.length_submissions_le (trace : Trace first events last) :
    (submissions events).length ≤ events.countP Event.misses := by
  induction trace with
  | nil => simp [submissions]
  | @cons event events last moved _ ih =>
      rw [submissions_cons, List.length_append, List.countP_cons]
      rcases Event.submitted?_cases moved with ⟨none, -⟩ | ⟨request, missed, submitted, -⟩
      · rw [none, Option.toList_none, List.length_nil]
        omega
      · rw [submitted, missed, Option.toList_some, List.length_singleton, if_pos rfl]
        omega

theorem Event.Interchangeable.same_move {other : Event} (changed : event.Interchangeable other)
    (moved : event.before.move? event.step = some (event.after, event.notices)) :
    other.before = event.before ∧ other.after = event.after ∧
      other.before.move? other.step = some (other.after, other.notices) ∧
      other.answer? = event.answer? := by
  cases changed with
  | same => exact ⟨rfl, rfl, moved, rfl⟩
  | @found request replaced asked hit key =>
      have held : ∃ build, Keyed.lookup? (keyFor request.identity) event.before.pages =
          some build := by
        rw [misses, asked, Bool.not_eq_false'] at hit
        exact Option.isSome_iff_exists.mp hit
      obtain ⟨build, held⟩ := held
      have again := held
      rw [← key] at again
      rw [asked] at moved
      simp only [move?, request_of_held held] at moved
      refine ⟨rfl, rfl, ?_, ?_⟩
      · simpa only [move?, request_of_held again] using moved
      · simp only [answer?, asked, request_of_held held, request_of_held again]

theorem Trace.interchange (trace : Trace first events last)
    (changed : List.Forall₂ Event.Interchangeable events others) :
    Trace first others last ∧ others.map Event.answer? = events.map Event.answer? := by
  induction trace generalizing others with
  | nil =>
      cases changed
      exact ⟨.nil _, rfl⟩
  | @cons event events last moved _ ih =>
      cases changed with
      | cons head tail =>
          obtain ⟨before, after, made, answer⟩ := head.same_move moved
          obtain ⟨rest, answers⟩ := ih tail
          refine ⟨?_, by rw [List.map_cons, List.map_cons, answer, answers]⟩
          rw [← before]
          exact .cons made (after ▸ rest)

theorem mem_submissions_iff {workers : Int} {evictsFailed : Bool} {order : Groups.Order}
    (created : create workers evictsFailed order = .ok first) (trace : Trace first events last) :
    (request, build) ∈ submissions events ↔
      ∃ known, last.builds[build]? = some known ∧ known.request = request := by
  have all := trace.zipIdx_builds
  rw [builds_of_create created, List.map_nil, List.zipIdx_nil, List.nil_append] at all
  rw [← all, List.mk_mem_zipIdx_iff_getElem?, List.getElem?_map, Option.map_eq_some_iff]

theorem countP_submissions {workers : Int} {evictsFailed : Bool} {order : Groups.Order}
    (created : create workers evictsFailed order = .ok first) (trace : Trace first events last) :
    (submissions events).countP (·.2 = build) = if build < last.builds.length then 1 else 0 := by
  have all := trace.zipIdx_builds
  rw [builds_of_create created, List.map_nil, List.zipIdx_nil, List.nil_append] at all
  have numbers := List.zipIdx_map_snd 0 (last.builds.map (·.request))
  rw [List.length_map] at numbers
  have count := List.count_range (a := build) (n := last.builds.length)
  rw [List.range_eq_range', ← numbers, List.count, List.countP_map, all] at count
  rw [← count]
  exact List.countP_congr fun pair _ => by simp

/-- What a run keeps to, whatever its moves and their order. -/
structure SingleFlight (first : PageCache) (events : List Event) (last : PageCache) : Prop where
  shared : ∀ (earlier between later : List Event) (former latter : Event)
    (request other : PageRequest) (build again : Nat),
    events = earlier ++ former :: (between ++ latter :: later) →
      former.Answers request build → latter.Answers other again →
      keyFor request.identity = keyFor other.identity →
      build = again ∨ ∃ event ∈ between, event.Removes (keyFor other.identity)
  submitted : ∀ event ∈ events, ∀ (request : PageRequest) (build : Nat),
    event.Answers request build → (submissions events).countP (·.2 = build) = 1
  loaded : ∀ load ∈ last.loads, last.loadCount load.build load.resource = 1 ∧
    ∃ request, (request, load.build) ∈ submissions events ∧
      load.source = request.source load.resource
  bounded : ∀ resource, last.loads.countP (·.resource = resource) ≤ events.countP Event.misses
  owned : ∀ key build, (key, build) ∈ last.pages →
    ∃ request, (request, build) ∈ submissions events ∧ keyFor request.identity = key
  separate : ∀ key other build, (key, build) ∈ last.pages → (other, build) ∈ last.pages →
    key = other
  inert : ∀ others, List.Forall₂ Event.Interchangeable events others →
    Trace first others last ∧ others.map Event.answer? = events.map Event.answer?

theorem Event.Answers.exists_build {workers : Int} {evictsFailed : Bool} {order : Groups.Order}
    (created : create workers evictsFailed order = .ok first) (trace : Trace first events last)
    (member : event ∈ events) (answers : event.Answers request build) :
    ∃ known, last.builds[build]? = some known ∧
      keyFor known.request.identity = keyFor request.identity ∧
      (event.misses = true → known.request = request) := by
  obtain ⟨asked, answered⟩ := answers
  have own : event.misses = true → (request, build) ∈ submissions events := by
    intro missed
    exact List.mem_filterMap.mpr ⟨event, member, by simp [submitted?, asked, answered, missed]⟩
  obtain ⟨earlier, later, -, before, moved, after⟩ := trace.around member
  have reachable : Reachable event.after :=
    ⟨_, _, _, _, _, created, before.append (.cons moved (.nil _))⟩
  simp only [asked, move?, Option.some.injEq, Prod.mk.injEq] at moved
  rw [Event.answer?, asked, Option.some.injEq] at answered
  have held := lookup?_of_answered answered
  rw [moved.1] at held
  obtain ⟨known, present, key⟩ := reachable.pagesMatch _ _ (Keyed.mem_of_lookup? held)
  obtain ⟨later, present, continues⟩ := after.continues reachable.fetchesSound present
  refine ⟨later, present, continues.request_eq ▸ key, ?_⟩
  intro missed
  obtain ⟨other, again, same⟩ := (mem_submissions_iff created trace).mp (own missed)
  rw [← same, Option.some.inj (present.symm.trans again)]

theorem Trace.singleFlight {workers : Int} {evictsFailed : Bool} {order : Groups.Order}
    (created : create workers evictsFailed order = .ok first) (trace : Trace first events last) :
    SingleFlight first events last := by
  have reachable : Reachable last := ⟨_, _, _, _, _, created, trace⟩
  have mem_iff : ∀ request build, (request, build) ∈ submissions events ↔
      ∃ known, last.builds[build]? = some known ∧ known.request = request :=
    fun _ _ => mem_submissions_iff created trace
  constructor
  · rintro earlier between later former latter request other build again rfl answers answered key
    obtain ⟨middle, -, rest⟩ := trace.split
    exact rest.shares answers answered key
  · intro event member request build answers
    obtain ⟨known, present, -⟩ := answers.exists_build created trace member
    rw [countP_submissions created trace, if_pos (List.getElem?_eq_some_iff.mp present).1]
  · intro load member
    obtain ⟨known, present, source⟩ := reachable.loadsMatch load member
    refine ⟨Nat.le_antisymm (reachable.loadCount_le_one _ _) ?_, known.request, ?_, source⟩
    · exact List.countP_pos_iff.mpr ⟨load, member, by simp⟩
    · exact (mem_iff _ _).mpr ⟨known, present, rfl⟩
  · intro resource
    have builds := congrArg List.length trace.zipIdx_builds
    rw [builds_of_create created] at builds
    simp only [List.length_zipIdx, List.length_map, List.map_nil, List.zipIdx_nil,
      List.nil_append] at builds
    calc last.loads.countP (·.resource = resource) ≤ last.builds.length :=
          reachable.countP_loads_le resource
      _ = (submissions events).length := builds
      _ ≤ events.countP Event.misses := trace.length_submissions_le
  · intro key build member
    obtain ⟨known, present, same⟩ := reachable.pagesMatch key build member
    exact ⟨known.request, (mem_iff _ _).mpr ⟨known, present, rfl⟩, same⟩
  · intro key other build member again
    obtain ⟨known, present, rfl⟩ := reachable.pagesMatch key build member
    obtain ⟨same, here, rfl⟩ := reachable.pagesMatch other build again
    rw [Option.some.inj (present.symm.trans here)]
  · intro others changed
    exact trace.interchange changed

end

theorem singleFlight_of_two_requests : ∃ first events last,
    create 1 false .byName = .ok first ∧ Trace first events last ∧
      events.map Event.answer? = [some (.ok 0), some (.ok 0)] ∧
      SingleFlight first events last := by
  have created : create 1 false .byName = .ok { workers := 1 } := rfl
  have trace : Trace { workers := 1 }
      [⟨_, .request { identity := "hero", metadata := .none }, _, _⟩,
        ⟨_, .request { identity := "hero", metadata := .text "" }, _, _⟩] _ :=
    .step rfl (.step rfl (.nil _))
  exact ⟨_, _, _, created, trace, rfl, trace.singleFlight created⟩

end Flipbook.PageCache
