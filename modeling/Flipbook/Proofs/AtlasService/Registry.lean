import Flipbook.Proofs.AtlasService.Ownership

/-!
What callers see of the registry. Calls for one name share a cache until it is removed, they do not
touch what is registered under other names, and a service that was closed stays closed.
-/

namespace Flipbook.AtlasService

variable {service : AtlasService} {id : Option String} {number : Nat}

theorem atlas_of_held (opened : service.closed = false)
    (held : Keyed.lookup? (service.effectiveId id) service.registry = some number) :
    service.atlas id = (service, .ok number) := by
  simp [atlas, opened, held]

theorem atlas_of_closed (closed : service.closed = true) (id : Option String) :
    service.atlas id = (service, .fail .serviceClosed) := by
  simp [atlas, closed]

theorem lookup?_of_answered (answered : (service.atlas id).2.outcome = .ok number) :
    Keyed.lookup? (service.effectiveId id) (service.atlas id).1.registry = some number := by
  unfold atlas at answered ⊢
  dsimp only at answered ⊢
  split at answered
  next => contradiction
  next opened =>
      rw [if_neg opened]
      split at answered
      next cache held => exact held.trans (congrArg some (Except.ok.inj answered))
      next missing =>
          split at answered
          next => contradiction
          next empty created =>
              have given : service.caches.length = number := by
                simpa [Report.bind, Report.log, Report.ok] using answered
              rw [Keyed.lookup?_set_self, given]

theorem atlas_answers (opened : service.closed = false) (workers : 0 < service.workers)
    (id : Option String) : ∃ number, (service.atlas id).2.outcome = .ok number := by
  unfold atlas
  dsimp only
  rw [if_neg (by simp [opened])]
  split
  next number held => exact ⟨number, rfl⟩
  next missing =>
      simp only [PageCache.create, if_neg (Int.not_le.mpr workers)]
      exact ⟨service.caches.length, rfl⟩

theorem requestPage_of_closed (closed : service.closed = true) (id : Option String)
    (request : PageRequest) : service.requestPage id request = (service, .fail .serviceClosed) := by
  simp [requestPage, atlas_of_closed closed, Report.fail]

theorem length_settleCaches [Limits] (loaders : Loaders) (caches : List PageCache) :
    (settleCaches loaders caches).1.length = caches.length := by
  induction caches with
  | nil => rfl
  | cons cache rest ih => simp [settleCaches, ih]

namespace Shared

variable {shared next first last : Shared} {step : Step} {steps between : List Step} {name : String}
  {former latter : Option String}

def concerns (service : AtlasService) (name : String) : Step → Prop
  | .atlas id => service.effectiveId id = name
  | .forget id => id = name
  | .shut => True
  | _ => False

variable [Limits]

theorem Move.concerns_eq (move : Move shared step next) :
    concerns next.service = concerns shared.service := by
  funext name other
  cases other <;> simp only [concerns, move.effectiveId_eq]

theorem Move.lookup?_registry (move : Move shared step next)
    (other : ¬ concerns shared.service name step) :
    Keyed.lookup? name next.service.registry = Keyed.lookup? name shared.service.registry := by
  cases move with
  | made => exact Keyed.lookup?_set_of_ne other ..
  | forget => exact Keyed.lookup?_erase_of_ne other _
  | shut => exact absurd trivial other
  | _ => rfl

theorem Move.lookup?_kept (move : Move shared step next)
    (held : Keyed.lookup? name shared.service.registry = some number)
    (kept : step ≠ .forget name) (opened : step ≠ .shut) :
    Keyed.lookup? name next.service.registry = some number := by
  cases move with
  | @made id empty _ missing =>
      have different : shared.service.effectiveId id ≠ name := by
        rintro rfl
        rw [held] at missing
        contradiction
      exact (Keyed.lookup?_set_of_ne different ..).trans held
  | @forget id =>
      have different : id ≠ name := fun same => kept (congrArg Step.forget same)
      exact (Keyed.lookup?_erase_of_ne different _).trans held
  | shut => contradiction
  | _ => exact held

theorem Move.cache_eq (sound : Sound shared) (move : Move shared step next)
    (held : Keyed.lookup? name shared.service.registry = some number)
    (others : ∀ inner, step ≠ .cache number inner) :
    next.service.caches[number]? = shared.service.caches[number]? := by
  have present := List.getElem?_eq_getElem (sound.lt_length held)
  rcases move.cache_cases present with same | ⟨inner, after, touches, -, -⟩
  · exact same.trans present.symm
  · cases touches with
    | cache => exact absurd rfl (others inner)
    | beginClose current =>
        exact absurd (mem_withdrawn_of_current? current) (sound.not_withdrawn held)

theorem run?_separate (sound : Sound first) (ran : first.run? steps = some last)
    (others : ∀ step ∈ steps, ¬ concerns first.service name step) :
    Keyed.lookup? name last.service.registry = Keyed.lookup? name first.service.registry ∧
      ∀ number, Keyed.lookup? name first.service.registry = some number →
        (∀ inner, .cache number inner ∉ steps) →
          last.service.caches[number]? = first.service.caches[number]? := by
  induction steps generalizing first with
  | nil =>
      obtain rfl := Option.some.inj ran
      exact ⟨rfl, fun _ _ _ => rfl⟩
  | cons step steps ih =>
      obtain ⟨next, move, rest⟩ := run?_cons_eq_some_iff.mp ran
      obtain ⟨here, later⟩ := List.forall_mem_cons.mp others
      have same := move.lookup?_registry here
      obtain ⟨registered, caches⟩ := ih (sound.move move) rest (move.concerns_eq ▸ later)
      refine ⟨registered.trans same, fun number held own => ?_⟩
      rw [caches number (same.trans held) fun inner member =>
        own inner (List.mem_cons_of_mem _ member)]
      exact move.cache_eq sound held fun inner equal => own inner (equal ▸ List.mem_cons_self)

theorem run?_lookup?_kept (ran : first.run? steps = some last)
    (held : Keyed.lookup? name first.service.registry = some number)
    (kept : .forget name ∉ steps) (opened : .shut ∉ steps) :
    Keyed.lookup? name last.service.registry = some number := by
  refine run?_invariant (Keyed.lookup? name ·.service.registry = some number) ?_ ran held
  intro shared step next member before move
  exact move.lookup?_kept before (fun same => kept (same ▸ member))
    (fun same => opened (same ▸ member))

theorem Sound.opened_of_held (sound : Sound shared)
    (held : Keyed.lookup? name shared.service.registry = some number) :
    shared.service.closed = false := by
  cases closed : shared.service.closed with
  | false => rfl
  | true =>
      rw [sound.emptied closed] at held
      contradiction

theorem Move.held_of_answered (move : Move shared (.atlas former) next)
    (answered : (shared.service.atlas former).2.outcome = .ok number) :
    Keyed.lookup? (shared.service.effectiveId former) next.service.registry = some number := by
  obtain rfl := Option.some.inj move.possible
  exact lookup?_of_answered answered

theorem Sound.shares (sound : Sound shared)
    (same : shared.service.effectiveId former = shared.service.effectiveId latter)
    (answered : (shared.service.atlas former).2.outcome = .ok number)
    (ran : shared.run? (.atlas former :: between) = some last)
    (kept : .forget (shared.service.effectiveId former) ∉ between) (opened : .shut ∉ between) :
    last.service.atlas latter = (last.service, .ok number) := by
  obtain ⟨next, move, rest⟩ := run?_cons_eq_some_iff.mp ran
  have held := run?_lookup?_kept rest (move.held_of_answered answered) kept opened
  have after := run?_invariant Sound (fun _ _ _ _ => Sound.move) ran sound
  refine atlas_of_held (after.opened_of_held held) ?_
  rwa [effectiveId_eq ran, ← same]

theorem Move.closed_kept (move : Move shared step next) (closed : shared.service.closed = true) :
    next.service.closed = true ∧
      next.service.caches.length = shared.service.caches.length := by
  cases move with
  | found opened | failed opened | made opened =>
      rw [closed] at opened
      contradiction
  | beginClose => exact ⟨closed, List.length_modify ..⟩
  | cache => exact ⟨closed, List.length_set⟩
  | shut => exact ⟨rfl, rfl⟩
  | _ => exact ⟨closed, rfl⟩

structure IsOver (service : AtlasService) (count : Nat) : Prop where
  registry : service.registry = []
  caches : service.caches.length = count
  atlas : ∀ id, service.atlas id = (service, .fail .serviceClosed)
  requestPage : ∀ id request, service.requestPage id request = (service, .fail .serviceClosed)
  awaitPage : ∀ id request patience loaders,
    (service.awaitPage id request patience loaders).2.outcome = .error .serviceClosed ∧
      (service.awaitPage id request patience loaders).1.registry = [] ∧
      (service.awaitPage id request patience loaders).1.caches.length = count

theorem IsOver.of_closed {count : Nat} (closed : service.closed = true)
    (registry : service.registry = []) (caches : service.caches.length = count) :
    IsOver service count where
  registry := registry
  caches := caches
  atlas := atlas_of_closed closed
  requestPage := requestPage_of_closed closed
  awaitPage id request patience loaders := by
    unfold AtlasService.awaitPage
    rw [requestPage_of_closed closed]
    exact ⟨rfl, registry, (length_settleCaches loaders service.caches).trans caches⟩

theorem Sound.isOver (sound : Sound shared) (ran : shared.run? (.shut :: steps) = some last) :
    IsOver last.service shared.service.caches.length := by
  have after := run?_invariant Sound (fun _ _ _ _ => Sound.move) ran sound
  obtain ⟨next, move, rest⟩ := run?_cons_eq_some_iff.mp ran
  have kept : last.service.closed = true ∧
      last.service.caches.length = shared.service.caches.length := by
    refine run?_invariant (fun later => later.service.closed = true ∧
      later.service.caches.length = shared.service.caches.length) ?_ rest ?_
    · rintro shared step next - ⟨closed, length⟩ move
      exact ⟨(move.closed_kept closed).1, (move.closed_kept closed).2.trans length⟩
    · cases move
      exact ⟨rfl, rfl⟩
  exact .of_closed kept.1 (after.emptied kept.1) kept.2

/-- What holds of a service at any time, whatever its callers do and in whatever order. -/
structure KeepsCaches (shared : Shared) : Prop where
  owned : ∀ number < shared.service.caches.length,
    ((∃! name, Keyed.lookup? name shared.service.registry = some number) ∧
        number ∉ shared.withdrawn) ∨
      ((∀ name, Keyed.lookup? name shared.service.registry ≠ some number) ∧
        shared.withdrawn.count number = 1)
  closing : ∀ withdrawal ∈ shared.withdrawals, ∀ number ∈ withdrawal.taken,
    number ∈ withdrawal.remaining ∨ shared.IsClosed number
  finishes : ∃ steps last, Closes shared steps last ∧
    ∀ number ∈ shared.withdrawn, last.IsClosed number
  answered : shared.service.closed = false → 0 < shared.service.workers →
    ∀ id, ∃ number, (shared.service.atlas id).2.outcome = .ok number
  shares : ∀ former latter number between last,
    shared.service.effectiveId former = shared.service.effectiveId latter →
    (shared.service.atlas former).2.outcome = .ok number →
    shared.run? (.atlas former :: between) = some last →
    .forget (shared.service.effectiveId former) ∉ between → .shut ∉ between →
      last.service.atlas latter = (last.service, .ok number)
  ended : ∀ steps last, shared.run? (.shut :: steps) = some last →
    IsOver last.service shared.service.caches.length
  separate : ∀ steps last name, shared.run? steps = some last →
    (∀ step ∈ steps, ¬ concerns shared.service name step) →
      Keyed.lookup? name last.service.registry = Keyed.lookup? name shared.service.registry ∧
        ∀ number, Keyed.lookup? name shared.service.registry = some number →
          (∀ inner, .cache number inner ∉ steps) →
            last.service.caches[number]? = shared.service.caches[number]?

theorem Reachable.keepsCaches (reachable : Reachable shared) : KeepsCaches shared where
  owned _ := reachable.sound.owned
  closing _ member _ := reachable.sound.closing member
  finishes := reachable.sound.exists_closes
  answered := atlas_answers
  shares _ _ _ _ _ := reachable.sound.shares
  ended _ _ := reachable.sound.isOver
  separate _ _ _ := run?_separate reachable.sound

end Shared

theorem Shared.keepsCaches_of_removed_atlas : ∃ shared, Reachable shared ∧
    shared.service.registry = [("other", 1), ("defaultAtlas", 2)] ∧ shared.withdrawn = [0] ∧
      shared.service.caches.map (fun cache => (cache.builds.length, cache.buildsClosed)) =
        [(1, true), (0, false), (0, false)] ∧ KeepsCaches shared := by
  have reachable : Reachable _ :=
    ⟨{ workers := 1 },
      [.atlas none, .atlas (some "other"),
        .cache 0 (.request { identity := "hero", metadata := .none }),
        .forget "defaultAtlas", .atlas (some ""), .beginClose 0], ⟨rfl, rfl, rfl⟩, rfl⟩
  exact ⟨_, reachable, rfl, rfl, rfl, reachable.keepsCaches⟩

end Flipbook.AtlasService
