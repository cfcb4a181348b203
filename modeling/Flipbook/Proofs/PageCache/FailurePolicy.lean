import Flipbook.Proofs.PageCache.Pages

/-!
Pages of failed builds. The one who asked for a build hears of its end at any time after it, when
the page may be gone or another build may have its place, and drops it only if it is still there.
-/

namespace Flipbook

@[simp] theorem Build.watch_setFetch (build : Build) (resource : Resource) (fetch : Fetch) :
    (build.setFetch resource fetch).watch = build.watch := by
  cases resource <;> rfl

structure Build.Watched (evictsFailed : Bool) (build : Build) : Prop where
  asked : build.watch ≠ .unregistered → evictsFailed = true
  told : build.watch = .informed → build.phase.isResolved = true

namespace PageCache

variable {cache next first last : PageCache} {step : Step} {events : List Event} {key : Int}
  {build : Nat} {known later : Build}

def hasFailed (cache : PageCache) (build : Nat) : Bool :=
  match cache.outcome? build with
  | some (.error _) => true
  | _ => false

theorem hasFailed_iff (present : cache.builds[build]? = some known) :
    cache.hasFailed build = true ↔ ∃ fault, known.phase = .resolved (.error fault) := by
  rw [hasFailed, outcome?, present, Option.bind_some]
  rcases known.phase with _ | _ | ⟨_ | _⟩ <;> simp [Phase.outcome?]

/-- Whether everyone who asked for a new build has asked to be told of its end, and has been told
of each end there was. -/
def IsQuiet (cache : PageCache) : Prop :=
  ∀ known ∈ cache.builds, known.watch ≠ .unregistered ∧
    (known.phase.isResolved = true → known.watch = .informed)

instance (cache : PageCache) : Decidable cache.IsQuiet :=
  inferInstanceAs (Decidable (∀ known ∈ cache.builds, known.watch ≠ .unregistered ∧
    (known.phase.isResolved = true → known.watch = .informed)))

section

variable [Limits]

theorem Move.evictsFailed_eq (move : Move cache step next) :
    next.evictsFailed = cache.evictsFailed := by
  cases move <;> rfl

theorem Trace.evictsFailed_eq (trace : Trace first events last) :
    last.evictsFailed = first.evictsFailed :=
  trace.invariant (fun _ _ _ same move => move.evictsFailed_eq.trans same) rfl

theorem BuildMove.watched (changed : BuildMove cache build step known later)
    (move : Move cache step next) (watched : known.Watched cache.evictsFailed) :
    later.Watched cache.evictsFailed := by
  cases changed with
  | registered =>
      cases move with
      | register _ evicts => exact ⟨fun _ => evicts, nofun⟩
  | started queued =>
      refine ⟨watched.asked, fun informed => ?_⟩
      have resolved := watched.told informed
      rw [queued] at resolved
      contradiction
  | refused | concluded => exact ⟨watched.asked, fun _ => rfl⟩
  | informed registered ended =>
      exact ⟨fun _ => watched.asked (by rw [registered]; nofun), fun _ => ended⟩
  | asked | begun | ended =>
      constructor
      · rw [Build.watch_setFetch]
        exact watched.asked
      · rw [Build.watch_setFetch, Build.phase_setFetch]
        exact watched.told

theorem Reachable.watched (reachable : Reachable cache) :
    cache.AllBuilds (Build.Watched cache.evictsFailed) := by
  have kept : ∀ cache step next, FetchesSound cache →
      cache.AllBuilds (Build.Watched cache.evictsFailed) → Move cache step next →
        next.AllBuilds (Build.Watched next.evictsFailed) := by
    intro cache step next sound before move
    rw [move.evictsFailed_eq]
    exact move.allBuilds sound (fun request => ⟨fun asked => absurd rfl asked, nofun⟩)
      (fun _ _ _ watched changed => changed.watched move watched) before
  exact reachable.invariant_of_sound (fun _ _ _ _ created => .of_create created) kept

theorem Move.lookup?_inform (pages : PagesMatch cache) (move : Move cache (.inform build) next)
    (key : Int) :
    Keyed.lookup? key next.pages =
      if Keyed.lookup? key cache.pages = some build ∧ cache.hasFailed build = true then none
      else Keyed.lookup? key cache.pages := by
  cases move with
  | @informSuccess _ known page present registered ended =>
      have succeeded : ¬ cache.hasFailed build = true := by
        rw [hasFailed_iff present, ended]
        rintro ⟨fault, failed⟩
        cases failed
      rw [if_neg fun both => succeeded both.2]
      rfl
  | informStale present registered ended gone =>
      rw [if_neg]
      · rfl
      · rintro ⟨held, -⟩
        rw [pages.keyFor_eq held present] at gone
        exact gone held
  | @informDropped _ known fault present registered ended held =>
      by_cases same : keyFor known.request.identity = key
      · subst same
        rw [if_pos ⟨held, (hasFailed_iff present).mpr ⟨fault, ended⟩⟩]
        exact Keyed.lookup?_erase_self _ _
      · rw [if_neg fun both => same (pages.keyFor_eq both.1 present)]
        exact Keyed.lookup?_erase_of_ne same _

theorem Move.lookup?_lost (move : Move cache step next)
    (watched : cache.AllBuilds (Build.Watched cache.evictsFailed))
    (held : Keyed.lookup? key cache.pages = some build)
    (lost : Keyed.lookup? key next.pages ≠ some build) :
    (∃ identity, step = .evict identity ∧ keyFor identity = key) ∨ step = .clear ∨
      (cache.evictsFailed = true ∧ step = .inform build ∧ cache.hasFailed build = true) := by
  cases move with
  | @accepted request missing =>
      have different : keyFor request.identity ≠ key := by
        intro equal
        rw [equal, held] at missing
        contradiction
      exact absurd ((Keyed.lookup?_set_of_ne different _ _).trans held) lost
  | @informDropped other known fault present registered ended there =>
      by_cases same : keyFor known.request.identity = key
      · rw [same, held] at there
        obtain rfl := Option.some.inj there
        have asked := (watched build known present).asked (by rw [registered]; nofun)
        exact .inr (.inr ⟨asked, rfl, (hasFailed_iff present).mpr ⟨fault, ended⟩⟩)
      · exact absurd ((Keyed.lookup?_erase_of_ne same _).trans held) lost
  | @evict identity =>
      by_cases same : keyFor identity = key
      · exact .inl ⟨identity, rfl, same⟩
      · exact absurd ((Keyed.lookup?_erase_of_ne same _).trans held) lost
  | clear => exact .inr (.inl rfl)
  | _ => exact absurd held lost

def DropsDue (cache : PageCache) : Prop :=
  ∀ key build known, Keyed.lookup? key cache.pages = some build →
    cache.builds[build]? = some known → cache.hasFailed build = true → known.watch ≠ .informed

theorem DropsDue.move (reachable : Reachable cache) (due : DropsDue cache)
    (move : Move cache step next) : DropsDue next := by
  intro key build later held after failed
  obtain ⟨fault, ended⟩ := (hasFailed_iff after).mp failed
  cases move.buildAfter reachable.fetchesSound after with
  | fresh _ _ _ _ _ created =>
      rw [created]
      nofun
  | same present =>
      rcases move.lookup?_before held with before | new
      · exact due key build later before present ((hasFailed_iff present).mpr ⟨fault, ended⟩)
      · rw [new, List.getElem?_eq_none (Nat.le_refl _)] at present
        contradiction
  | changed known present changed =>
      have inside : build ≠ cache.builds.length :=
        Nat.ne_of_lt (List.getElem?_eq_some_iff.mp present).1
      have before := (move.lookup?_before held).resolve_right inside
      have kept : known.phase = .resolved (.error fault) → known.watch ≠ .informed :=
        fun ended => due key build known before present ((hasFailed_iff present).mpr ⟨fault, ended⟩)
      have running : known.phase = .running → known.watch ≠ .informed := by
        intro running informed
        have resolved := (reachable.watched build known present).told informed
        rw [running] at resolved
        contradiction
      cases changed with
      | registered => nofun
      | started => contradiction
      | refused runs | concluded runs => exact running runs
      | asked | begun | ended =>
          rw [Build.phase_setFetch] at ended
          rw [Build.watch_setFetch]
          exact kept ended
      | informed =>
          rw [move.lookup?_inform reachable.pagesMatch key,
            if_pos ⟨before, (hasFailed_iff present).mpr ⟨fault, ended⟩⟩] at held
          contradiction

theorem Reachable.dropsDue (reachable : Reachable cache) : DropsDue cache := by
  refine reachable.invariant_of_reachable ?_ fun _ _ _ before due move => due.move before move
  intro workers evictsFailed order start created key build known held
  rw [(eq_of_create created).2] at held
  contradiction

/-- What becomes of the pages of failed builds in a run, whatever its moves and their order. -/
structure FailurePolicy (first : PageCache) (events : List Event) (last : PageCache) : Prop where
  guarded : ∀ event ∈ events, ∀ build, event.step = .inform build → ∀ key,
    Keyed.lookup? key event.after.pages =
      if Keyed.lookup? key event.before.pages = some build ∧
          event.before.hasFailed build = true then none
      else Keyed.lookup? key event.before.pages
  lost : ∀ event ∈ events, ∀ key build,
    Keyed.lookup? key event.before.pages = some build →
      Keyed.lookup? key event.after.pages ≠ some build →
        (∃ identity, event.step = .evict identity ∧ keyFor identity = key) ∨
          event.step = .clear ∨
          (first.evictsFailed = true ∧ event.step = .inform build ∧
            event.before.hasFailed build = true)
  settled : first.evictsFailed = true → last.IsQuiet →
    ∀ key build, (key, build) ∈ last.pages → last.hasFailed build = false

theorem Trace.failurePolicy {workers : Int} {evictsFailed : Bool} {order : Groups.Order}
    (created : create workers evictsFailed order = .ok first) (trace : Trace first events last) :
    FailurePolicy first events last := by
  have start : Reachable first := ⟨_, _, _, _, _, created, .nil first⟩
  constructor
  · intro event member build told key
    obtain ⟨earlier, later, -, before, moved, -⟩ := trace.around member
    rw [told] at moved
    exact (Move.of_move? moved).lookup?_inform (start.trace before).pagesMatch key
  · intro event member key build held lost
    obtain ⟨earlier, later, -, before, moved, -⟩ := trace.around member
    rw [← before.evictsFailed_eq]
    exact (Move.of_move? moved).lookup?_lost (start.trace before).watched held lost
  · intro evicts quiet key build member
    have reachable := start.trace trace
    obtain ⟨known, present, -⟩ := reachable.pagesMatch key build member
    have held := Keyed.lookup?_of_mem reachable.nodup_pages member
    rw [Bool.eq_false_iff]
    intro failed
    obtain ⟨fault, ended⟩ := (hasFailed_iff present).mp failed
    have told := (quiet known (List.mem_of_getElem? present)).2 (by rw [ended]; rfl)
    exact reachable.dropsDue key build known held present failed told

end

theorem failurePolicy_of_late_register : ∃ first events last,
    create 1 true .byName = .ok first ∧ Trace first events last ∧ last.IsQuiet ∧
      last.hasFailed 0 = true ∧ last.pages.map (·.2) = [1] ∧
      FailurePolicy first events last := by
  have created : create 1 true .byName = .ok { workers := 1, evictsFailed := true } := rfl
  have trace : Trace { workers := 1, evictsFailed := true }
      [⟨_, .request { identity := "hero", metadata := .none }, _, _⟩,
        ⟨_, .startBuild, _, _⟩,
        ⟨_, .askFetch 0, _, _⟩,
        ⟨_, .askFetch 0, _, _⟩,
        ⟨_, .startFetch, _, _⟩,
        ⟨_, .finishFetch 0 .metadata (.fail .malformedJson), _, _⟩,
        ⟨_, .finishBuild 0, _, _⟩,
        ⟨_, .evict "hero", _, _⟩,
        ⟨_, .request { identity := "hero", metadata := .none }, _, _⟩,
        ⟨_, .register 0, _, _⟩,
        ⟨_, .inform 0, _, _⟩,
        ⟨_, .register 1, _, _⟩] _ :=
    .step rfl (.step rfl (.step rfl (.step rfl (.step rfl (.step rfl (.step rfl (.step rfl
      (.step rfl (.step rfl (.step rfl (.step rfl (.nil _))))))))))))
  exact ⟨_, _, _, created, trace, by decide, rfl, rfl, trace.failurePolicy created⟩

end PageCache

end Flipbook
