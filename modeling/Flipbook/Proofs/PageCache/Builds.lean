import Flipbook.Proofs.PageCache.Fetches

/-!
One build among all others. No build is ever forgotten, its request stays the same, and what it
ends with follows from its loads.
-/

namespace Flipbook

inductive Fetch.Joined (metadata image : Fetch) : Except Fault (Value × Value) → Prop
  | metadataFailed {fault : Fault} (failed : metadata = .finished (.error fault))
      (asked : image ≠ .absent) : Joined metadata image (.error fault)
  | imageFailed {loaded : Value} {fault : Fault} (ended : metadata = .finished (.ok loaded))
      (failed : image = .finished (.error fault)) : Joined metadata image (.error fault)
  | both {loaded texture : Value} (ended : metadata = .finished (.ok loaded))
      (drawn : image = .finished (.ok texture)) : Joined metadata image (.ok (loaded, texture))

namespace Build

theorem joined?_eq_some_iff {build : Build} {resources : Except Fault (Value × Value)} :
    build.joined? = some resources ↔ Fetch.Joined build.metadata build.image resources := by
  constructor
  · intro joined
    unfold joined? at joined
    split at joined
    next => contradiction
    next fault failed asked =>
        exact Option.some.inj joined ▸ .metadataFailed failed asked
    next metadata image loaded ended =>
        cases image with
        | error fault => exact Option.some.inj joined ▸ .imageFailed loaded ended
        | ok texture => exact Option.some.inj joined ▸ .both loaded ended
    next => contradiction
  · intro joined
    cases joined with
    | metadataFailed failed asked =>
        unfold joined?
        split <;> simp_all
    | imageFailed loaded failed => simp [joined?, loaded, failed, Except.map]
    | both loaded drawn => simp [joined?, loaded, drawn, Except.map]

@[simp] theorem request_setFetch (build : Build) (resource : Resource) (fetch : Fetch) :
    (build.setFetch resource fetch).request = build.request := by
  cases resource <;> rfl

@[simp] theorem phase_setFetch (build : Build) (resource : Resource) (fetch : Fetch) :
    (build.setFetch resource fetch).phase = build.phase := by
  cases resource <;> rfl

theorem metadata_of_unasked?_image {build : Build} (unasked : build.unasked? = some .image) :
    build.metadata ≠ .absent := by
  intro absent
  simp [unasked?, absent] at unasked

theorem unasked?_setFetch {build : Build} {resource : Resource} {fetch : Fetch}
    (asked : build.fetch resource ≠ .absent) (kept : fetch ≠ .absent) :
    (build.setFetch resource fetch).unasked? = build.unasked? := by
  obtain ⟨request, phase, metadata, image, watch⟩ := build
  cases resource <;> cases metadata <;> cases image <;> cases fetch <;>
    simp_all [unasked?, setFetch, Build.fetch]

theorem joined_setFetch {build : Build} {resource : Resource} {fetch : Fetch}
    {resources : Except Fault (Value × Value)}
    (joined : Fetch.Joined build.metadata build.image resources)
    (pending : build.fetch resource = .queued ∨ build.fetch resource = .running)
    (kept : fetch ≠ .absent) :
    Fetch.Joined (build.setFetch resource fetch).metadata
      (build.setFetch resource fetch).image resources := by
  cases joined with
  | metadataFailed failed asked =>
      cases resource with
      | metadata => simp [Build.fetch, failed] at pending
      | image => exact .metadataFailed failed kept
  | imageFailed loaded failed => cases resource <;> simp_all [Build.fetch]
  | both loaded drawn => cases resource <;> simp_all [Build.fetch]

theorem unasked?_eq_none_of_joined {build : Build} {resources : Except Fault (Value × Value)}
    (joined : Fetch.Joined build.metadata build.image resources) : build.unasked? = none := by
  unfold unasked?
  cases joined with
  | metadataFailed failed asked => split <;> simp_all
  | imageFailed loaded failed => simp [loaded, failed]
  | both loaded drawn => simp [loaded, drawn]

theorem fetch_of_unasked?_eq_none {build : Build} (asked : build.unasked? = none)
    (resource : Resource) : build.fetch resource ≠ .absent := by
  intro absent
  unfold unasked? at asked
  split at asked
  next => contradiction
  next => contradiction
  next notMetadata notImage =>
      cases resource with
      | metadata => exact notMetadata absent
      | image => exact notImage absent

theorem exists_joined {build : Build} (asked : build.unasked? = none)
    (ended : ∀ resource, build.fetch resource ≠ .absent →
      ∃ outcome, build.fetch resource = .finished outcome) :
    ∃ resources, Fetch.Joined build.metadata build.image resources := by
  obtain ⟨loaded, metadata⟩ := ended .metadata (fetch_of_unasked?_eq_none asked .metadata)
  obtain ⟨drawn, image⟩ := ended .image (fetch_of_unasked?_eq_none asked .image)
  cases loaded with
  | error fault => exact ⟨_, .metadataFailed metadata (fetch_of_unasked?_eq_none asked .image)⟩
  | ok loaded =>
      cases drawn with
      | error fault => exact ⟨_, .imageFailed metadata image⟩
      | ok texture => exact ⟨_, .both metadata image⟩

variable [Limits]

/-- What the history of a build keeps: the metadata is asked for before the image and neither
before the build runs, and a build ends with what its resources give or with a closed pool. -/
structure Sound (order : Groups.Order) (build : Build) : Prop where
  untouched : build.phase = .queued → build.metadata = .absent
  ordered : build.metadata = .absent → build.image = .absent
  refused : ∀ outcome resource, build.phase = .resolved outcome →
    build.unasked? = some resource → outcome = .error .poolClosed
  concluded : ∀ outcome, build.phase = .resolved outcome → build.unasked? = none →
    ∃ resources, Fetch.Joined build.metadata build.image resources ∧
      outcome = (conclude build.request order resources).outcome

theorem Sound.setFetch {order : Groups.Order} {build : Build} (sound : build.Sound order)
    {resource : Resource} {fetch : Fetch}
    (pending : build.fetch resource = .queued ∨ build.fetch resource = .running)
    (kept : fetch ≠ .absent) : (build.setFetch resource fetch).Sound order := by
  have asked : build.fetch resource ≠ .absent := by
    rcases pending with queued | running
    · simp [queued]
    · simp [running]
  have unasked := unasked?_setFetch asked kept
  constructor
  · intro queued
    rw [phase_setFetch] at queued
    have absent := sound.untouched queued
    cases resource with
    | metadata => exact absurd absent asked
    | image => exact absent
  · intro absent
    cases resource with
    | metadata => exact absurd absent kept
    | image => exact absurd (sound.ordered absent) asked
  · intro outcome other ended
    rw [phase_setFetch] at ended
    rw [unasked]
    exact sound.refused outcome other ended
  · intro outcome ended
    rw [phase_setFetch] at ended
    rw [unasked, request_setFetch]
    intro none
    obtain ⟨resources, joined, equal⟩ := sound.concluded outcome ended none
    exact ⟨resources, joined_setFetch joined pending kept, equal⟩

structure Continues (known later : Build) : Prop where
  request_eq : later.request = known.request
  outcome_kept : ∀ outcome, known.phase = .resolved outcome → later.phase = .resolved outcome

end Build

namespace PageCache

theorem builds_of_create {workers : Int} {evictsFailed : Bool} {order : Groups.Order}
    {start : PageCache} (created : create workers evictsFailed order = .ok start) :
    start.builds = [] := by
  rw [(eq_of_create created).2]

def AllBuilds (cache : PageCache) (holds : Build → Prop) : Prop :=
  ∀ (build : Nat) (known : Build), cache.builds[build]? = some known → holds known

theorem AllBuilds.of_create {workers : Int} {evictsFailed : Bool} {order : Groups.Order}
    {start : PageCache} {holds : Build → Prop}
    (created : create workers evictsFailed order = .ok start) : start.AllBuilds holds := by
  intro build known present
  simp [builds_of_create created] at present

variable [Limits]

inductive BuildMove (cache : PageCache) (build : Nat) : Step → Build → Build → Prop
  | registered {known : Build} (unregistered : known.watch = .unregistered) :
      BuildMove cache build (.register build) known { known with watch := .registered }
  | started {known : Build} (queued : known.phase = .queued) :
      BuildMove cache build .startBuild known { known with phase := .running }
  | asked {known : Build} {resource : Resource} (running : known.phase = .running)
      (unasked : known.unasked? = some resource) :
      BuildMove cache build (.askFetch build) known (known.setFetch resource .queued)
  | refused {known : Build} {resource : Resource} (running : known.phase = .running)
      (unasked : known.unasked? = some resource) (closed : cache.fetchesClosed = true) :
      BuildMove cache build (.askFetch build) known
        { known with phase := .resolved (.error .poolClosed) }
  | begun {known : Build} {resource : Resource} (queued : known.fetch resource = .queued) :
      BuildMove cache build .startFetch known (known.setFetch resource .running)
  | ended {known : Build} {resource : Resource} {result : Report Value}
      (running : known.fetch resource = .running) :
      BuildMove cache build (.finishFetch build resource result) known
        (known.setFetch resource (.finished result.outcome))
  | concluded {known : Build} {resources : Except Fault (Value × Value)}
      (running : known.phase = .running) (joined : known.joined? = some resources) :
      BuildMove cache build (.finishBuild build) known
        { known with
          phase := .resolved (Build.conclude known.request cache.order resources).outcome }
  | informed {known : Build} (registered : known.watch = .registered)
      (ended : known.phase.isResolved = true) :
      BuildMove cache build (.inform build) known { known with watch := .informed }

variable {cache next : PageCache} {step : Step} {build : Nat} {known later : Build}

theorem BuildMove.request_eq (move : BuildMove cache build step known later) :
    later.request = known.request := by
  cases move with
  | asked _ _ => exact Build.request_setFetch ..
  | begun _ => exact Build.request_setFetch ..
  | ended _ => exact Build.request_setFetch ..
  | _ => rfl

inductive BuildAfter (cache : PageCache) (step : Step) (build : Nat) (later : Build) : Prop
  | fresh (request : PageRequest) (asked : step = .request request)
      (missing : Keyed.lookup? (keyFor request.identity) cache.pages = none)
      (opened : cache.buildsClosed = false) (last : build = cache.builds.length)
      (created : later = { request })
  | same (present : cache.builds[build]? = some later)
  | changed (known : Build) (present : cache.builds[build]? = some known)
      (move : BuildMove cache build step known later)

theorem BuildAfter.of_modifyBuild {changed : Nat} {change : Build → Build} {old : Build}
    (present : cache.builds[changed]? = some old)
    (move : BuildMove cache changed step old (change old))
    (after : (cache.modifyBuild changed change).builds[build]? = some later) :
    BuildAfter cache step build later := by
  by_cases same : changed = build
  · subst build
    rw [getElem?_modifyBuild_self present, Option.some.injEq] at after
    exact .changed old present (after ▸ move)
  · rw [getElem?_modifyBuild_of_ne same] at after
    exact .same after

/-- What a move does to the builds: nothing, or one is added, or one goes on. -/
inductive BuildsChange (cache : PageCache) (step : Step) (next : PageCache) : Prop
  | same (builds : next.builds = cache.builds)
  | added (request : PageRequest) (asked : step = .request request)
      (missing : Keyed.lookup? (keyFor request.identity) cache.pages = none)
      (opened : cache.buildsClosed = false)
      (builds : next.builds = cache.builds ++ [{ request := request }])
  | changed (build : Nat) (known : Build) (change : Build → Build)
      (present : cache.builds[build]? = some known)
      (move : BuildMove cache build step known (change known))
      (builds : next.builds = cache.builds.modify build change)

theorem Move.buildsChange (sound : FetchesSound cache) (move : Move cache step next) :
    BuildsChange cache step next := by
  cases move with
  | found | rejected | evict | clear | close | closeFetches | abandonFetches => exact .same rfl
  | accepted missing opened => exact .added _ rfl missing opened rfl
  | register present _ unregistered =>
      exact .changed _ _ _ present (.registered unregistered) rfl
  | startBuild _ first =>
      obtain ⟨inside, queued, _⟩ := List.findIdx?_eq_some_iff_getElem.mp first
      exact .changed _ _ _ (List.getElem?_eq_getElem inside)
        (.started (Phase.isQueued_iff.mp queued)) rfl
  | askFetch present running unasked _ =>
      exact .changed _ _ _ present (.asked running unasked) rfl
  | refuseFetch present running unasked closed =>
      exact .changed _ _ _ present (.refused running unasked closed) rfl
  | @startFetch begun known resource waiting _ queue present =>
      have queued : cache.fetchOf begun resource = .queued := by
        rw [← sound.mem_iff, queue]
        exact List.mem_cons_self
      rw [fetchOf_of_present present] at queued
      exact .changed _ _ _ present (.begun queued) rfl
  | finishFetch present running => exact .changed _ _ _ present (.ended running) rfl
  | finishBuild present running joined =>
      exact .changed _ _ _ present (.concluded running joined) rfl
  | informSuccess present registered ended | informStale present registered ended _
  | informDropped present registered ended _ =>
      exact .changed _ _ _ present (.informed registered (by rw [ended]; rfl)) rfl

theorem Move.buildAfter (sound : FetchesSound cache) (move : Move cache step next)
    (after : next.builds[build]? = some later) : BuildAfter cache step build later := by
  cases move.buildsChange sound with
  | same builds => exact .same (builds ▸ after)
  | added request asked missing opened builds =>
      rw [builds, List.getElem?_append] at after
      split at after
      next => exact .same after
      next outside =>
          obtain ⟨inside, created⟩ := List.getElem?_eq_some_iff.mp after
          rw [List.length_singleton] at inside
          rw [List.getElem_singleton] at created
          exact .fresh _ asked missing opened (by omega) created.symm
  | changed other known change present move builds =>
      rw [builds] at after
      exact .of_modifyBuild present move after

theorem Move.total_builds (sound : FetchesSound cache) (move : Move cache step next)
    (measure : Build → Nat) :
    total measure next.builds = total measure cache.builds ∨
      (∃ request, total measure next.builds =
        total measure cache.builds + measure { request := request }) ∨
      ∃ build known later, cache.builds[build]? = some known ∧
        BuildMove cache build step known later ∧
        total measure next.builds + measure known =
          total measure cache.builds + measure later := by
  cases move.buildsChange sound with
  | same builds => exact .inl (by rw [builds])
  | added request _ _ _ builds =>
      refine .inr (.inl ⟨request, ?_⟩)
      rw [builds, total_append]
      rfl
  | changed build known change present move builds =>
      refine .inr (.inr ⟨build, known, _, present, move, ?_⟩)
      rw [builds]
      exact total_modify present change measure

theorem BuildMove.sound {order : Groups.Order} (same : cache.order = order)
    (move : BuildMove cache build step known later) (sound : known.Sound order) :
    later.Sound order := by
  cases move with
  | registered => exact ⟨sound.untouched, sound.ordered, sound.refused, sound.concluded⟩
  | informed => exact ⟨sound.untouched, sound.ordered, sound.refused, sound.concluded⟩
  | started queued => exact ⟨nofun, sound.ordered, nofun, nofun⟩
  | refused running unasked closed =>
      refine ⟨nofun, sound.ordered, ?_, ?_⟩
      · rintro outcome resource ended -
        exact (Phase.resolved.inj ended).symm
      · intro outcome ended asked
        exact absurd (unasked.symm.trans asked) (by simp)
  | concluded running joined =>
      have joined := Build.joined?_eq_some_iff.mp joined
      refine ⟨nofun, sound.ordered, ?_, ?_⟩
      · intro outcome resource ended unasked
        exact absurd ((Build.unasked?_eq_none_of_joined joined).symm.trans unasked) (by simp)
      · intro outcome ended asked
        exact ⟨_, joined, by rw [← Phase.resolved.inj ended, same]⟩
  | @asked known resource running unasked =>
      constructor
      · intro queued
        simp [running] at queued
      · intro absent
        cases resource with
        | metadata => contradiction
        | image => exact (Build.metadata_of_unasked?_image unasked absent).elim
      · intro outcome other ended
        simp [running] at ended
      · intro outcome ended
        simp [running] at ended
  | begun queued => exact sound.setFetch (.inl queued) (by simp)
  | ended running => exact sound.setFetch (.inr running) (by simp)

theorem Move.allBuilds {holds : Build → Prop} (sound : FetchesSound cache)
    (move : Move cache step next) (fresh : ∀ request, holds { request })
    (kept : ∀ build known later, holds known → BuildMove cache build step known later → holds later)
    (before : cache.AllBuilds holds) : next.AllBuilds holds := by
  intro build later after
  cases move.buildAfter sound after with
  | fresh request _ _ _ _ created => exact created ▸ fresh request
  | same present => exact before build later present
  | changed known present changed =>
      exact kept build known later (before build known present) changed

theorem Move.order_eq (move : Move cache step next) : next.order = cache.order := by
  cases move <;> rfl

theorem Move.workers_eq (move : Move cache step next) : next.workers = cache.workers := by
  cases move <;> rfl

theorem Reachable.allBuilds_sound (reachable : Reachable cache) :
    cache.AllBuilds (Build.Sound cache.order) := by
  have kept : ∀ cache step next, FetchesSound cache → cache.AllBuilds (Build.Sound cache.order) →
      Move cache step next → next.AllBuilds (Build.Sound next.order) := by
    intro cache step next sound before move
    rw [move.order_eq]
    exact move.allBuilds sound (fun request => ⟨fun _ => rfl, fun _ => rfl, nofun, nofun⟩)
      (fun _ _ _ holds changed => changed.sound rfl holds) before
  exact reachable.invariant_of_sound (fun _ _ _ _ created => .of_create created) kept

theorem BuildMove.continues (move : BuildMove cache build step known later) :
    Build.Continues known later := by
  refine ⟨move.request_eq, ?_⟩
  intro outcome ended
  cases move with
  | registered | informed => exact ended
  | started queued => simp [queued] at ended
  | refused running | concluded running => simp [running] at ended
  | asked | begun | ended => rwa [Build.phase_setFetch]

theorem Move.length_le (move : Move cache step next) :
    cache.builds.length ≤ next.builds.length := by
  cases move with
  | found | rejected | evict | clear | close | closeFetches | abandonFetches => exact Nat.le_refl _
  | accepted => simp
  | _ => exact Nat.le_of_eq (length_modifyBuild ..).symm

theorem Move.continues (sound : FetchesSound cache) (move : Move cache step next)
    (present : cache.builds[build]? = some known) :
    ∃ later, next.builds[build]? = some later ∧ known.Continues later := by
  obtain ⟨inside, _⟩ := List.getElem?_eq_some_iff.mp present
  have after := List.getElem?_eq_getElem (Nat.lt_of_lt_of_le inside move.length_le)
  refine ⟨_, after, ?_⟩
  cases move.buildAfter sound after with
  | fresh _ _ _ _ last => omega
  | same before =>
      have equal := Option.some.inj (present.symm.trans before)
      exact ⟨congrArg Build.request equal.symm, fun outcome ended => equal ▸ ended⟩
  | changed old before changed =>
      rw [Option.some.inj (present.symm.trans before)]
      exact changed.continues

theorem Trace.continues {first last : PageCache} {events : List Event}
    (sound : FetchesSound first) (trace : Trace first events last)
    (present : first.builds[build]? = some known) :
    ∃ later, last.builds[build]? = some later ∧ known.Continues later := by
  induction trace generalizing known with
  | nil => exact ⟨known, present, rfl, fun _ ended => ended⟩
  | cons moved _ ih =>
      have move := Move.of_move? moved
      obtain ⟨middle, between, toMiddle⟩ := move.continues sound present
      obtain ⟨later, after, toLater⟩ := ih (sound.move move) between
      exact ⟨later, after, toLater.request_eq.trans toMiddle.request_eq,
        fun outcome ended => toLater.outcome_kept outcome (toMiddle.outcome_kept outcome ended)⟩

end PageCache

end Flipbook
