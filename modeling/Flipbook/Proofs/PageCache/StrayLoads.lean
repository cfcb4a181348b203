import Flipbook.Proofs.PageCache.Schedule

/-!
Loads that outlive their builds. A build whose metadata fails does not wait for its image, and the
load of that image keeps a worker of the second pool, or a place in its queue, that the pool has for
other builds.
-/

namespace Flipbook

def Fetch.isQueued : Fetch → Bool
  | .queued => true
  | _ => false

def Fetch.isOutstanding (fetch : Fetch) : Bool := fetch.isQueued || fetch.isRunning

theorem Fetch.toNat_isOutstanding (fetch : Fetch) :
    fetch.isOutstanding.toNat = fetch.isQueued.toNat + fetch.isRunning.toNat := by
  cases fetch <;> rfl

namespace Build

def tally (kind : Fetch → Bool) (build : Build) : Nat :=
  (kind build.metadata).toNat + (kind build.image).toNat

theorem tally_setFetch (kind : Fetch → Bool) (build : Build) (resource : Resource)
    (fetch : Fetch) :
    (build.setFetch resource fetch).tally kind + (kind (build.fetch resource)).toNat =
      build.tally kind + (kind fetch).toNat := by
  cases resource <;> simp only [tally, setFetch, Build.fetch] <;> omega

def outstanding (build : Build) : Nat := build.tally Fetch.isOutstanding

theorem outstanding_eq (build : Build) :
    build.outstanding = build.tally Fetch.isQueued + build.tally Fetch.isRunning := by
  simp only [outstanding, tally, Fetch.toNat_isOutstanding]
  omega

def strays (build : Build) : Nat := if build.phase.isResolved then build.outstanding else 0

/-- The ways in which a build ends without one of its loads. -/
inductive Strays (build : Build) : Resource → Prop
  | image {fault : Fault} (failed : build.metadata = .finished (.error fault))
      (outstanding : build.image.isOutstanding = true)
      (ended : build.phase =
        .resolved (.error (.pageBuild build.request.identity.text fault))) : Strays build .image
  | metadata (outstanding : build.metadata.isOutstanding = true) (unasked : build.image = .absent)
      (ended : build.phase = .resolved (.error .poolClosed)) : Strays build .metadata

variable {build : Build} {order : Groups.Order} {resource : Resource} [Limits]

theorem Sound.not_outstanding_of_queued (sound : build.Sound order) (queued : build.phase = .queued)
    (resource : Resource) : (build.fetch resource).isOutstanding = false := by
  have metadata := sound.untouched queued
  have image := sound.ordered metadata
  cases resource with
  | metadata => rw [fetch, metadata]; rfl
  | image => rw [fetch, image]; rfl

theorem Sound.strays_of_outstanding {outcome : Except Fault Page} (sound : build.Sound order)
    (ended : build.phase = .resolved outcome)
    (outstanding : (build.fetch resource).isOutstanding = true) : build.Strays resource := by
  cases unasked : build.unasked? with
  | some other =>
      rw [sound.refused outcome other ended unasked] at ended
      have absent := fetch_of_unasked? unasked
      cases other with
      | metadata =>
          have image := sound.ordered absent
          cases resource with
          | metadata => rw [absent] at outstanding; contradiction
          | image => rw [fetch, image] at outstanding; contradiction
      | image =>
          cases resource with
          | metadata => exact .metadata outstanding absent ended
          | image => rw [absent] at outstanding; contradiction
  | none =>
      obtain ⟨resources, joined, rfl⟩ := sound.concluded outcome ended unasked
      cases joined with
      | metadataFailed failed asked =>
          cases resource with
          | metadata => rw [fetch, failed] at outstanding; contradiction
          | image => exact .image failed outstanding (ended.trans (by rw [conclude_of_error rfl]))
      | imageFailed loaded failed =>
          cases resource with
          | metadata => rw [fetch, loaded] at outstanding; contradiction
          | image => rw [fetch, failed] at outstanding; contradiction
      | both loaded drawn =>
          cases resource with
          | metadata => rw [fetch, loaded] at outstanding; contradiction
          | image => rw [fetch, drawn] at outstanding; contradiction

theorem Sound.outstanding_le (sound : build.Sound order) :
    build.outstanding ≤ 2 * build.phase.isRunning.toNat + build.strays := by
  cases phase : build.phase with
  | queued =>
      have metadata := sound.not_outstanding_of_queued phase .metadata
      have image := sound.not_outstanding_of_queued phase .image
      rw [outstanding, tally, show build.metadata.isOutstanding = false from metadata,
        show build.image.isOutstanding = false from image]
      exact Nat.zero_le _
  | running =>
      have metadata := Bool.toNat_le build.metadata.isOutstanding
      have image := Bool.toNat_le build.image.isOutstanding
      simp only [outstanding, tally, Phase.isRunning, Bool.toNat_true]
      omega
  | resolved outcome => simp [strays, phase, Phase.isResolved]

end Build

namespace PageCache

def outstanding (cache : PageCache) : Nat := cache.fetchQueue.length + cache.runningFetches

def strays (cache : PageCache) : Nat := total Build.strays cache.builds

variable {cache next first last : PageCache} {step : Step} {events : List Event} {build : Nat}
  {known : Build}

theorem countP_eq_total (builds : List Build) (holds : Build → Bool) :
    builds.countP holds = total (fun known => (holds known).toNat) builds := by
  induction builds with
  | nil => rfl
  | cons first rest ih =>
      rw [List.countP_cons, ih, total_cons, Nat.add_comm]
      cases holds first <;> rfl

theorem total_eq_zero {measure : Build → Nat} {builds : List Build}
    (none : ∀ known ∈ builds, measure known = 0) : total measure builds = 0 := by
  induction builds with
  | nil => rfl
  | cons first rest ih =>
      rw [total_cons, none first List.mem_cons_self,
        ih fun known later => none known (List.mem_cons_of_mem _ later)]

theorem runningBuilds_eq (cache : PageCache) :
    cache.runningBuilds = total (fun known => known.phase.isRunning.toNat) cache.builds :=
  countP_eq_total ..

theorem runningFetches_eq (cache : PageCache) :
    cache.runningFetches = total (Build.tally Fetch.isRunning) cache.builds := by
  rw [runningFetches, countP_eq_total, countP_eq_total]
  induction cache.builds with
  | nil => rfl
  | cons first rest ih =>
      simp only [total_cons, ← ih, Build.tally]
      omega

variable [Limits]

theorem Move.runningBuilds_le (sound : FetchesSound cache) (move : Move cache step next)
    (bounded : cache.runningBuilds ≤ cache.workers) : next.runningBuilds ≤ next.workers := by
  rw [move.workers_eq, runningBuilds_eq]
  rcases move.total_builds sound fun known => known.phase.isRunning.toNat with
    same | ⟨request, added⟩ | ⟨build, known, later, -, changed, sum⟩
  · rwa [same, ← runningBuilds_eq]
  · rw [added, ← runningBuilds_eq]
    exact bounded
  · have fewer : later.phase.isRunning.toNat ≤ known.phase.isRunning.toNat ∨
        cache.runningBuilds < cache.workers := by
      cases changed with
      | registered | informed => exact .inl (Nat.le_refl _)
      | refused | concluded => exact .inl (Nat.zero_le _)
      | asked | begun | ended => exact .inl (Nat.le_of_eq (by rw [Build.phase_setFetch]))
      | started =>
          cases move with
          | startBuild idle => exact .inr idle
    have single := Bool.toNat_le later.phase.isRunning
    rw [runningBuilds_eq] at bounded fewer
    omega

theorem Reachable.runningBuilds_le (reachable : Reachable cache) :
    cache.runningBuilds ≤ cache.workers := by
  refine reachable.invariant_of_sound ?_ fun cache step next sound bounded move =>
    move.runningBuilds_le sound bounded
  intro workers evictsFailed order start created
  simp [runningBuilds, builds_of_create created]

theorem Move.length_fetchQueue (sound : FetchesSound cache) (move : Move cache step next)
    (before : cache.fetchQueue.length = total (Build.tally Fetch.isQueued) cache.builds) :
    next.fetchQueue.length = total (Build.tally Fetch.isQueued) next.builds := by
  have same : ∀ {build known} (change : Build → Build), cache.builds[build]? = some known →
      (change known).tally Fetch.isQueued = known.tally Fetch.isQueued →
      cache.fetchQueue.length =
        total (Build.tally Fetch.isQueued) (cache.modifyBuild build change).builds := by
    intro build known change present kept
    have total := total_modify present change (Build.tally Fetch.isQueued)
    rw [kept] at total
    rw [modifyBuild]
    dsimp only
    omega
  cases move with
  | found | rejected | evict | clear | close | closeFetches | abandonFetches => exact before
  | accepted =>
      rw [total_append]
      exact before
  | register present | refuseFetch present | finishBuild present | informSuccess present
  | informStale present | informDropped present => exact same _ present rfl
  | @startBuild build idle first =>
      obtain ⟨inside, -, -⟩ := List.findIdx?_eq_some_iff_getElem.mp first
      exact same _ (List.getElem?_eq_getElem inside) rfl
  | @askFetch build known resource present running unasked opened =>
      have total := total_modify present (·.setFetch resource .queued)
        (Build.tally Fetch.isQueued)
      have sum := known.tally_setFetch Fetch.isQueued resource .queued
      rw [Build.fetch_of_unasked? unasked] at sum
      simp only [Fetch.isQueued, Bool.toNat_true, Bool.toNat_false] at sum
      rw [modifyBuild, List.length_append, List.length_singleton]
      dsimp only
      omega
  | @startFetch build known resource waiting idle queue present =>
      have total := total_modify present (·.setFetch resource .running)
        (Build.tally Fetch.isQueued)
      have sum := known.tally_setFetch Fetch.isQueued resource .running
      have queued := (sound.mem_iff build resource).mp (queue ▸ List.mem_cons_self)
      rw [← fetchOf_of_present present, queued] at sum
      simp only [Fetch.isQueued, Bool.toNat_true, Bool.toNat_false] at sum
      rw [queue, List.length_cons] at before
      rw [modifyBuild]
      dsimp only
      omega
  | @finishFetch build known resource result present running =>
      refine same _ present ?_
      have sum := known.tally_setFetch Fetch.isQueued resource (.finished result.outcome)
      rw [running] at sum
      simpa only [Fetch.isQueued, Bool.toNat_false, Nat.add_zero] using sum

theorem Reachable.length_fetchQueue (reachable : Reachable cache) :
    cache.fetchQueue.length = total (Build.tally Fetch.isQueued) cache.builds := by
  refine reachable.invariant_of_sound ?_ fun cache step next sound before move =>
    move.length_fetchQueue sound before
  intro workers evictsFailed order start created
  obtain ⟨-, rfl⟩ := eq_of_create created
  rfl

theorem Reachable.outstanding_eq (reachable : Reachable cache) :
    cache.outstanding = total Build.outstanding cache.builds := by
  rw [outstanding, reachable.length_fetchQueue, runningFetches_eq]
  induction cache.builds with
  | nil => rfl
  | cons first rest ih =>
      simp only [total_cons, ← ih, Build.outstanding_eq]
      omega

/-- The second pool has room for the loads of all builds that run, but not for those that strayed
as well. -/
theorem Reachable.outstanding_le (reachable : Reachable cache) :
    cache.outstanding ≤ 2 * cache.runningBuilds + cache.strays := by
  have sound := reachable.allBuilds_sound
  have bound : ∀ builds : List Build, (∀ known ∈ builds, known.Sound cache.order) →
      total Build.outstanding builds ≤
        2 * builds.countP (·.phase.isRunning) + total Build.strays builds := by
    intro builds
    rw [countP_eq_total]
    induction builds with
    | nil => exact fun _ => Nat.le_refl 0
    | cons first rest ih =>
        intro all
        have here := (all first List.mem_cons_self).outstanding_le
        have there := ih fun known member => all known (List.mem_cons_of_mem _ member)
        simp only [total_cons]
        omega
  rw [reachable.outstanding_eq]
  refine bound cache.builds fun known member => ?_
  obtain ⟨build, present⟩ := List.getElem?_of_mem member
  exact sound build known present

theorem Reachable.exists_owner (reachable : Reachable cache) {resource : Resource}
    (outstanding : (cache.fetchOf build resource).isOutstanding = true) :
    ∃ known, cache.builds[build]? = some known ∧
      (known.phase = .running ∨ known.Strays resource) := by
  cases present : cache.builds[build]? with
  | none =>
      rw [fetchOf, present] at outstanding
      contradiction
  | some known =>
      rw [fetchOf_of_present present] at outstanding
      have sound := reachable.allBuilds_sound build known present
      refine ⟨known, rfl, ?_⟩
      cases phase : known.phase with
      | queued =>
          rw [sound.not_outstanding_of_queued phase resource] at outstanding
          contradiction
      | running => exact .inl rfl
      | resolved outcome => exact .inr (sound.strays_of_outstanding phase outstanding)

theorem Reachable.strays_eq_zero (reachable : Reachable cache)
    (none : ∀ known ∈ cache.builds, ∀ resource, ¬ known.Strays resource) : cache.strays = 0 := by
  refine total_eq_zero fun known member => ?_
  obtain ⟨build, present⟩ := List.getElem?_of_mem member
  have sound := reachable.allBuilds_sound build known present
  unfold Build.strays
  cases phase : known.phase with
  | resolved outcome =>
      have settled : ∀ resource, (known.fetch resource).isOutstanding = false := by
        intro resource
        rw [Bool.eq_false_iff]
        exact fun left => none known member resource (sound.strays_of_outstanding phase left)
      rw [Build.outstanding, Build.tally,
        show known.metadata.isOutstanding = false from settled .metadata,
        show known.image.isOutstanding = false from settled .image]
      rfl
  | _ => rfl

theorem Reachable.exists_startFetch (reachable : Reachable cache)
    (bounded : cache.outstanding ≤ 2 * cache.workers) (filled : cache.fetchQueue ≠ []) :
    ∃ next, Move cache .startFetch next := by
  obtain ⟨⟨build, resource⟩, waiting, queue⟩ := List.exists_cons_of_ne_nil filled
  have queued := (reachable.fetchesSound.mem_iff build resource).mp (queue ▸ List.mem_cons_self)
  have idle : cache.runningFetches < 2 * cache.workers := by
    rw [outstanding, queue, List.length_cons] at bounded
    omega
  cases present : cache.builds[build]? with
  | none => simp [fetchOf, present] at queued
  | some known => exact ⟨_, .startFetch idle queue present⟩

structure LoadsOwned (events : List Event) (cache : PageCache) : Prop where
  owner : ∀ build resource, (cache.fetchOf build resource).isOutstanding = true →
    ∃ known, cache.builds[build]? = some known ∧
      (known.phase = .running ∨ known.Strays resource)
  queued : ∀ build resource, (build, resource) ∈ cache.fetchQueue ↔
    cache.fetchOf build resource = .queued
  abandoned : ∀ known ∈ cache.builds, known.Strays .metadata →
    ∃ event ∈ events, event.step = .abandonFetches
  bounded : cache.outstanding ≤ 2 * cache.workers + cache.strays
  served : (∀ known ∈ cache.builds, ∀ resource, ¬ known.Strays resource) →
    cache.outstanding ≤ 2 * cache.workers ∧
      (cache.fetchQueue ≠ [] → ∃ next, Move cache .startFetch next)

theorem Trace.loadsOwned {workers : Int} {evictsFailed : Bool} {order : Groups.Order}
    (created : create workers evictsFailed order = .ok first) (trace : Trace first events last) :
    LoadsOwned events last := by
  have reachable : Reachable last := ⟨_, _, _, _, _, created, trace⟩
  have room := reachable.outstanding_le
  have running := reachable.runningBuilds_le
  refine ⟨fun _ _ => reachable.exists_owner, reachable.fetchesSound.mem_iff, ?_, by omega, ?_⟩
  · intro known member strays
    by_cases abandoned : ∃ event ∈ events, event.step = .abandonFetches
    · exact abandoned
    · have orderly := trace.orderly created fun event among abandons =>
        abandoned ⟨event, among, abandons⟩
      obtain ⟨build, present⟩ := List.getElem?_of_mem member
      cases strays with
      | metadata outstanding absent ended =>
          have asked := orderly.asked build known present (by rw [ended]; rfl)
          exact absurd absent (Build.fetch_of_unasked?_eq_none asked .image)
  · intro none
    have bounded : last.outstanding ≤ 2 * last.workers := by
      rw [reachable.strays_eq_zero none] at room
      omega
    exact ⟨bounded, reachable.exists_startFetch bounded⟩

end PageCache

end Flipbook
