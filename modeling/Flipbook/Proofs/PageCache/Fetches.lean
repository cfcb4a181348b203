import Flipbook.Proofs.PageCache.Trace

/-!
The loads of all builds. A load is asked for once, waits in the queue exactly as long as it is
queued, and begins at most once.
-/

namespace Flipbook

def Fetch.hasBegun : Fetch → Bool
  | .absent | .queued => false
  | .running | .finished _ => true

@[simp] theorem Build.fetch_setFetch (build : Build) (resource other : Resource) (fetch : Fetch) :
    (build.setFetch resource fetch).fetch other =
      if resource = other then fetch else build.fetch other := by
  cases resource <;> cases other <;> rfl

theorem Build.fetch_of_unasked? {build : Build} {resource : Resource}
    (unasked : build.unasked? = some resource) : build.fetch resource = .absent := by
  unfold Build.unasked? at unasked
  split at unasked
  next absent => exact Option.some.inj unasked ▸ absent
  next absent _ => exact Option.some.inj unasked ▸ absent
  next => contradiction

namespace PageCache

def fetchOf (cache : PageCache) (build : Nat) (resource : Resource) : Fetch :=
  match cache.builds[build]? with
  | some known => known.fetch resource
  | none => .absent

theorem fetchOf_of_present {cache : PageCache} {build : Nat} {known : Build}
    (present : cache.builds[build]? = some known) (resource : Resource) :
    cache.fetchOf build resource = known.fetch resource := by
  simp [fetchOf, present]

theorem fetchOf_modifyBuild (cache : PageCache) (build : Nat) {change : Build → Build}
    (unchanged : ∀ known resource, (change known).fetch resource = known.fetch resource) :
    (cache.modifyBuild build change).fetchOf = cache.fetchOf := by
  funext other resource
  simp only [fetchOf, getElem?_modifyBuild]
  by_cases same : build = other
  · cases cache.builds[other]? <;> simp [same, unchanged]
  · simp [same]

theorem fetchOf_setFetch {cache : PageCache} {build : Nat} {known : Build}
    (present : cache.builds[build]? = some known) (resource : Resource) (fetch : Fetch)
    (other : Nat) (asked : Resource) :
    (cache.modifyBuild build (·.setFetch resource fetch)).fetchOf other asked =
      if build = other ∧ resource = asked then fetch else cache.fetchOf other asked := by
  simp only [fetchOf, getElem?_modifyBuild]
  by_cases same : build = other
  · subst other
    simp [present]
  · simp [same]

theorem fetchOf_append (cache : PageCache) (request : PageRequest) (pages : List (Int × Nat)) :
    ({ cache with builds := cache.builds ++ [{ request }], pages } : PageCache).fetchOf =
      cache.fetchOf := by
  funext build resource
  simp only [fetchOf, List.getElem?_append]
  by_cases inside : build < cache.builds.length
  · simp [inside]
  · rw [if_neg inside, List.getElem?_eq_none (show cache.builds.length ≤ build by omega)]
    cases build - cache.builds.length <;> cases resource <;> simp [Build.fetch]

inductive FetchChange (cache next : PageCache) : Prop
  | none (queue : next.fetchQueue = cache.fetchQueue) (loads : next.loads = cache.loads)
      (fetches : next.fetchOf = cache.fetchOf)
  | asked (build : Nat) (resource : Resource) (absent : cache.fetchOf build resource = .absent)
      (queue : next.fetchQueue = cache.fetchQueue ++ [(build, resource)])
      (loads : next.loads = cache.loads)
      (fetches : ∀ other asked, next.fetchOf other asked =
        if build = other ∧ resource = asked then .queued else cache.fetchOf other asked)
  | begun (build : Nat) (resource : Resource) (known : Build)
      (present : cache.builds[build]? = some known)
      (queue : cache.fetchQueue = (build, resource) :: next.fetchQueue)
      (loads : next.loads = cache.loads ++ [⟨build, resource, known.request.source resource⟩])
      (fetches : ∀ other asked, next.fetchOf other asked =
        if build = other ∧ resource = asked then .running else cache.fetchOf other asked)
  | ended (build : Nat) (resource : Resource) (outcome : Except Fault Value)
      (running : cache.fetchOf build resource = .running)
      (queue : next.fetchQueue = cache.fetchQueue) (loads : next.loads = cache.loads)
      (fetches : ∀ other asked, next.fetchOf other asked =
        if build = other ∧ resource = asked then .finished outcome
        else cache.fetchOf other asked)

variable {cache next : PageCache} {step : Step}

def loadCount (cache : PageCache) (build : Nat) (resource : Resource) : Nat :=
  cache.loads.countP fun load => load.build = build ∧ load.resource = resource

/-- The queue holds the loads that are queued, each once, and a load is counted once from its
beginning on. -/
structure FetchesSound (cache : PageCache) : Prop where
  nodup : cache.fetchQueue.Nodup
  mem_iff : ∀ build resource,
    (build, resource) ∈ cache.fetchQueue ↔ cache.fetchOf build resource = .queued
  counted : ∀ build resource,
    cache.loadCount build resource = if (cache.fetchOf build resource).hasBegun then 1 else 0

theorem FetchesSound.of_create {workers : Int} {evictsFailed : Bool} {order : Groups.Order}
    {start : PageCache} (created : create workers evictsFailed order = .ok start) :
    FetchesSound start := by
  obtain ⟨-, rfl⟩ := eq_of_create created
  exact ⟨List.nodup_nil, by simp [fetchOf], by simp [loadCount, fetchOf, Fetch.hasBegun]⟩

theorem loadCount_of_loads (loads : next.loads = cache.loads) :
    next.loadCount = cache.loadCount := by
  funext build resource
  rw [loadCount, loads, loadCount]

theorem FetchesSound.counted_of_update (sound : FetchesSound cache) {build : Nat}
    {resource : Resource} {fetch : Fetch}
    (fetches : ∀ other asked, next.fetchOf other asked =
      if build = other ∧ resource = asked then fetch else cache.fetchOf other asked)
    (elsewhere : ∀ other asked, ¬ (build = other ∧ resource = asked) →
      next.loadCount other asked = cache.loadCount other asked)
    (here : next.loadCount build resource = if fetch.hasBegun then 1 else 0)
    (other : Nat) (asked : Resource) :
    next.loadCount other asked = if (next.fetchOf other asked).hasBegun then 1 else 0 := by
  rw [fetches]
  by_cases same : build = other ∧ resource = asked
  · obtain ⟨rfl, rfl⟩ := same
    simp [here]
  · rw [if_neg same, elsewhere other asked same, sound.counted]

theorem FetchesSound.asked (sound : FetchesSound cache) {build : Nat} {resource : Resource}
    (absent : cache.fetchOf build resource = .absent)
    (queue : next.fetchQueue = cache.fetchQueue ++ [(build, resource)])
    (loads : next.loads = cache.loads)
    (fetches : ∀ other asked, next.fetchOf other asked =
      if build = other ∧ resource = asked then .queued else cache.fetchOf other asked) :
    FetchesSound next := by
  have fresh : (build, resource) ∉ cache.fetchQueue := by
    simp [sound.mem_iff, absent]
  constructor
  · rw [queue, List.nodup_append]
    refine ⟨sound.nodup, by simp, ?_⟩
    intro waiting member last single equal
    rw [equal, List.mem_singleton.mp single] at member
    exact fresh member
  · intro other asked
    rw [queue, fetches, List.mem_append, sound.mem_iff]
    by_cases same : build = other ∧ resource = asked
    · simp [same.1, same.2]
    · simp only [same, if_false, List.mem_singleton, Prod.mk.injEq, or_iff_left_iff_imp]
      rintro ⟨rfl, rfl⟩
      exact absurd ⟨rfl, rfl⟩ same
  · have counts := loadCount_of_loads loads
    refine sound.counted_of_update fetches (fun other asked _ => by rw [counts]) ?_
    rw [counts, sound.counted, absent]
    rfl

theorem FetchesSound.begun (sound : FetchesSound cache) {build : Nat} {resource : Resource}
    {source : Value} (queue : cache.fetchQueue = (build, resource) :: next.fetchQueue)
    (loads : next.loads = cache.loads ++ [⟨build, resource, source⟩])
    (fetches : ∀ other asked, next.fetchOf other asked =
      if build = other ∧ resource = asked then .running else cache.fetchOf other asked) :
    FetchesSound next := by
  have nodup := sound.nodup
  rw [queue, List.nodup_cons] at nodup
  have queued : cache.fetchOf build resource = .queued := by
    rw [← sound.mem_iff, queue]
    exact List.mem_cons_self
  constructor
  · exact nodup.2
  · intro other asked
    rw [fetches]
    by_cases same : build = other ∧ resource = asked
    · obtain ⟨rfl, rfl⟩ := same
      simp [nodup.1]
    · rw [if_neg same, ← sound.mem_iff, queue, List.mem_cons, Prod.mk.injEq]
      simp only [iff_or_self]
      rintro ⟨rfl, rfl⟩
      exact absurd ⟨rfl, rfl⟩ same
  · have counts : ∀ other asked, next.loadCount other asked =
        cache.loadCount other asked + if build = other ∧ resource = asked then 1 else 0 := by
      intro other asked
      rw [loadCount, loads, List.countP_append, loadCount]
      simp
    refine sound.counted_of_update fetches ?_ ?_
    · intro other asked different
      rw [counts, if_neg different, Nat.add_zero]
    · simp [counts, sound.counted, queued, Fetch.hasBegun]

theorem FetchesSound.ended (sound : FetchesSound cache) {build : Nat} {resource : Resource}
    {outcome : Except Fault Value} (running : cache.fetchOf build resource = .running)
    (queue : next.fetchQueue = cache.fetchQueue) (loads : next.loads = cache.loads)
    (fetches : ∀ other asked, next.fetchOf other asked =
      if build = other ∧ resource = asked then .finished outcome
      else cache.fetchOf other asked) :
    FetchesSound next := by
  refine ⟨queue ▸ sound.nodup, ?_, ?_⟩
  · intro other asked
    rw [queue, fetches, sound.mem_iff]
    by_cases same : build = other ∧ resource = asked
    · obtain ⟨rfl, rfl⟩ := same
      simp [running]
    · simp [same]
  · have counts := loadCount_of_loads loads
    refine sound.counted_of_update fetches (fun other asked _ => by rw [counts]) ?_
    rw [counts, sound.counted, running]
    rfl

theorem FetchesSound.inside (sound : FetchesSound cache) {load : Load}
    (member : load ∈ cache.loads) : load.build < cache.builds.length := by
  have counted : 0 < cache.loadCount load.build load.resource := by
    rw [loadCount, List.countP_pos_iff]
    exact ⟨load, member, by simp⟩
  rw [sound.counted load.build load.resource] at counted
  cases present : cache.builds[load.build]? with
  | none => simp [fetchOf, present, Fetch.hasBegun] at counted
  | some known => exact (List.getElem?_eq_some_iff.mp present).1

variable [Limits]

theorem Move.fetchChange (move : Move cache step next) : FetchChange cache next := by
  cases move with
  | found | rejected => exact .none rfl rfl rfl
  | accepted => exact .none rfl rfl (fetchOf_append ..)
  | evict | clear | close | closeFetches | abandonFetches => exact .none rfl rfl rfl
  | register | startBuild | refuseFetch | finishBuild | informSuccess | informStale
  | informDropped =>
      exact .none rfl rfl (fetchOf_modifyBuild _ _ fun _ resource => by cases resource <;> rfl)
  | askFetch present running unasked opened =>
      refine .asked _ _ ?_ rfl rfl (fetchOf_setFetch present _ _)
      rw [fetchOf_of_present present]
      exact Build.fetch_of_unasked? unasked
  | startFetch idle queue present =>
      exact .begun _ _ _ present queue rfl (fetchOf_setFetch present _ _)
  | finishFetch present running =>
      refine .ended _ _ _ ?_ rfl rfl (fetchOf_setFetch present _ _)
      rw [fetchOf_of_present present, running]

theorem FetchesSound.move (sound : FetchesSound cache) (move : Move cache step next) :
    FetchesSound next := by
  cases move.fetchChange with
  | none queue loads fetches =>
      refine ⟨queue ▸ sound.nodup, by simpa [queue, fetches] using sound.mem_iff, ?_⟩
      simpa only [loadCount_of_loads loads, fetches] using sound.counted
  | asked build resource absent queue loads fetches => exact sound.asked absent queue loads fetches
  | begun build resource known present queue loads fetches => exact sound.begun queue loads fetches
  | ended build resource outcome running queue loads fetches =>
      exact sound.ended running queue loads fetches

theorem Reachable.fetchesSound (reachable : Reachable cache) : FetchesSound cache :=
  reachable.invariant (fun _ _ _ _ => .of_create) fun _ _ _ => .move

theorem Trace.invariant_of_sound {holds : PageCache → Prop} {first last : PageCache}
    {events : List Event}
    (kept : ∀ cache step next notices, ⟨cache, step, next, notices⟩ ∈ events →
      FetchesSound cache → holds cache → Move cache step next → holds next)
    (trace : Trace first events last) (sound : FetchesSound first) (initially : holds first) :
    holds last := by
  have both : ∀ cache step next notices, ⟨cache, step, next, notices⟩ ∈ events →
      FetchesSound cache ∧ holds cache → Move cache step next → FetchesSound next ∧ holds next := by
    rintro cache step next notices member ⟨sound, before⟩ move
    exact ⟨sound.move move, kept cache step next notices member sound before move⟩
  exact (trace.invariant_of_mem both ⟨sound, initially⟩).2

theorem Reachable.invariant_of_sound {holds : PageCache → Prop}
    (initially : ∀ workers evictsFailed order start,
      create workers evictsFailed order = .ok start → holds start)
    (kept : ∀ cache step next, FetchesSound cache → holds cache → Move cache step next → holds next)
    (reachable : Reachable cache) : holds cache := by
  obtain ⟨workers, evictsFailed, order, start, events, created, trace⟩ := reachable
  exact trace.invariant_of_sound (fun cache step next _ _ => kept cache step next)
    (.of_create created) (initially _ _ _ _ created)

theorem Reachable.loadCount_le_one (reachable : Reachable cache) (build : Nat)
    (resource : Resource) : cache.loadCount build resource ≤ 1 := by
  rw [reachable.fetchesSound.counted build resource]
  split <;> omega

theorem Reachable.countP_loads_le (reachable : Reachable cache) (resource : Resource) :
    cache.loads.countP (·.resource = resource) ≤ cache.builds.length := by
  have nodup : ((cache.loads.filter (·.resource = resource)).map (·.build)).Nodup := by
    rw [List.nodup_iff_count]
    intro build
    refine Nat.le_trans (Nat.le_of_eq ?_) (reachable.loadCount_le_one build resource)
    rw [loadCount, List.count, List.countP_map, List.countP_filter]
    exact List.countP_congr fun load _ => by simp
  have inside : (cache.loads.filter (·.resource = resource)).map (·.build) ⊆
      List.range cache.builds.length := by
    intro build member
    obtain ⟨load, loaded, rfl⟩ := List.mem_map.mp member
    rw [List.mem_range]
    exact reachable.fetchesSound.inside (List.mem_filter.mp loaded).1
  have bound := nodup.length_le_of_subset inside
  rwa [List.length_map, List.length_range, ← List.countP_eq_length_filter] at bound

end PageCache

end Flipbook
