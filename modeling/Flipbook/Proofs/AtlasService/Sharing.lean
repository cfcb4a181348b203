import Flipbook.AtlasService
import Flipbook.Proofs.PageCache.Shutdown
import Flipbook.Proofs.Settings.Readings

/-!
A service that several callers use at once. Whatever a call does under the lock of the registry is
one move, and so is whatever it does to a cache. A call that takes caches out of the registry closes
them after it has let go of the lock, and the moves of all other callers may come in between.
-/

namespace Flipbook

namespace AtlasService

/-- The caches that one call took out of the registry. It closes one after the other and waits for
each of them. The first `closed` ones are over. -/
structure Withdrawal where
  taken : List Nat
  closed : Nat := 0

namespace Withdrawal

def current? (withdrawal : Withdrawal) : Option Nat := withdrawal.taken[withdrawal.closed]?

def remaining (withdrawal : Withdrawal) : List Nat := withdrawal.taken.drop withdrawal.closed

def advance (withdrawal : Withdrawal) : Withdrawal :=
  { withdrawal with closed := withdrawal.closed + 1 }

theorem head?_remaining (withdrawal : Withdrawal) :
    withdrawal.remaining.head? = withdrawal.current? := List.head?_drop ..

end Withdrawal

structure Shared where
  service : AtlasService
  withdrawals : List Withdrawal := []

/-- A request for a page is the `atlas` that finds its cache and a `cache` that hands the request to
it. Removing an atlas is its `forget` and then the closing of what that took out. Closing the
service is its `shut` and then the same for all caches. -/
inductive Step
  | atlas (id : Option String)
  | forget (id : String)
  | shut
  | beginClose (withdrawal : Nat)
  | endClose (withdrawal : Nat)
  | cache (number : Nat) (step : PageCache.Step)

def withCache (service : AtlasService) (number : Nat) (cache : PageCache) : AtlasService :=
  { service with caches := service.caches.set number cache }

theorem withCache_of_present {service : AtlasService} {number : Nat} {cache : PageCache}
    (present : service.caches[number]? = some cache) :
    service.withCache number cache = service := by
  obtain ⟨inside, rfl⟩ := List.getElem?_eq_some_iff.mp present
  simp [withCache]

theorem withCache_withCache (service : AtlasService) (number : Nat) (former latter : PageCache) :
    (service.withCache number former).withCache number latter =
      service.withCache number latter := by
  simp [withCache]

structure IsNew (service : AtlasService) : Prop where
  caches : service.caches = []
  registry : service.registry = []
  opened : service.closed = false

variable [Limits]

theorem isNew_ofSettings {settings : Settings} {service : AtlasService}
    (made : (ofSettings settings).outcome = .ok service) :
    IsNew service ∧ 0 < service.workers := by
  unfold ofSettings at made
  obtain ⟨findings, checked, rest⟩ := Report.exists_of_bind made
  obtain ⟨-, -, rest⟩ := Report.exists_of_bind rest
  split at rest
  next valid =>
      obtain ⟨workers, counted, positive⟩ := (Settings.sound_of_valid checked valid).1
      obtain ⟨name, -, rest⟩ := Report.exists_of_bind rest
      obtain ⟨again, same, rest⟩ := Report.exists_of_bind rest
      obtain ⟨timeout, -, given⟩ := Report.exists_of_bind rest
      obtain rfl := Except.ok.inj given
      obtain rfl := Except.ok.inj (counted.symm.trans same)
      exact ⟨⟨rfl, rfl, rfl⟩, positive⟩
  next => contradiction

namespace Shared

def current? (shared : Shared) (withdrawal : Nat) : Option Nat :=
  (shared.withdrawals[withdrawal]?).bind (·.current?)

def endClose? (shared : Shared) (withdrawal : Nat) : Option Shared :=
  match (shared.current? withdrawal).bind (shared.service.caches[·]?) with
  | some cache =>
    if cache.isShut then
      some { shared with withdrawals := shared.withdrawals.modify withdrawal (·.advance) }
    else none
  | none => none

def moveCache? (shared : Shared) (number : Nat) (step : PageCache.Step) : Option Shared :=
  match shared.service.caches[number]? with
  | some cache =>
    (cache.move? step).map fun (next, _) =>
      { shared with service := shared.service.withCache number next }
  | none => none

def withdraw (shared : Shared) (service : AtlasService) (taken : List Nat) : Shared :=
  { service, withdrawals := shared.withdrawals ++ [{ taken }] }

def move? (shared : Shared) : Step → Option Shared
  | .atlas id => some { shared with service := (shared.service.atlas id).1 }
  | .forget id =>
    let (service, taken) := shared.service.forget id
    some (shared.withdraw service taken.toList)
  | .shut =>
    let (service, taken) := shared.service.shut
    some (shared.withdraw service taken)
  | .beginClose withdrawal =>
    (shared.current? withdrawal).map fun number =>
      { shared with service := shared.service.closeCache number }
  | .endClose withdrawal => shared.endClose? withdrawal
  | .cache number step => shared.moveCache? number step

def run? (shared : Shared) (steps : List Step) : Option Shared := steps.foldlM move? shared

def Reachable (shared : Shared) : Prop :=
  ∃ service steps, IsNew service ∧ run? { service } steps = some shared

/-- What a move does. Each rule has the guard of its move as hypotheses. -/
inductive Move (shared : Shared) : Step → Shared → Prop
  | refused {id : Option String} (closed : shared.service.closed = true) :
      Move shared (.atlas id) shared
  | found {id : Option String} {number : Nat} (opened : shared.service.closed = false)
      (held : Keyed.lookup? (shared.service.effectiveId id) shared.service.registry =
        some number) :
      Move shared (.atlas id) shared
  | failed {id : Option String} {fault : Fault} (opened : shared.service.closed = false)
      (missing : Keyed.lookup? (shared.service.effectiveId id) shared.service.registry = none)
      (failed : PageCache.create shared.service.workers shared.service.evictsFailed
        shared.service.order = .error fault) :
      Move shared (.atlas id) shared
  | made {id : Option String} {empty : PageCache} (opened : shared.service.closed = false)
      (missing : Keyed.lookup? (shared.service.effectiveId id) shared.service.registry = none)
      (created : PageCache.create shared.service.workers shared.service.evictsFailed
        shared.service.order = .ok empty) :
      Move shared (.atlas id)
        { shared with
          service := { shared.service with
            caches := shared.service.caches ++ [empty]
            registry := Keyed.set shared.service.registry (shared.service.effectiveId id)
              shared.service.caches.length } }
  | forget {id : String} :
      Move shared (.forget id)
        (shared.withdraw
          { shared.service with registry := Keyed.erase shared.service.registry id }
          (Keyed.lookup? id shared.service.registry).toList)
  | shut :
      Move shared .shut
        (shared.withdraw { shared.service with registry := [], closed := true }
          (shared.service.registry.map (·.2)))
  | beginClose {withdrawal number : Nat} (current : shared.current? withdrawal = some number) :
      Move shared (.beginClose withdrawal)
        { shared with service := shared.service.closeCache number }
  | endClose {withdrawal number : Nat} {cache : PageCache}
      (current : shared.current? withdrawal = some number)
      (present : shared.service.caches[number]? = some cache) (shut : cache.IsShut) :
      Move shared (.endClose withdrawal)
        { shared with withdrawals := shared.withdrawals.modify withdrawal (·.advance) }
  | cache {number : Nat} {step : PageCache.Step} {cache next : PageCache} {notices : List Notice}
      (present : shared.service.caches[number]? = some cache)
      (moved : cache.move? step = some (next, notices)) :
      Move shared (.cache number step)
        { shared with service := shared.service.withCache number next }

variable {shared next first middle last : Shared} {step : Step} {steps earlier later : List Step}
  {id : Option String} {name : String} {number withdrawal : Nat}

theorem Move.of_atlas (moved : { shared with service := (shared.service.atlas id).1 } = next) :
    Move shared (.atlas id) next := by
  unfold AtlasService.atlas at moved
  dsimp only at moved
  split at moved
  next closed => exact moved ▸ .refused closed
  next opened =>
      rw [Bool.not_eq_true] at opened
      split at moved
      next number held => exact moved ▸ .found opened held
      next missing =>
          split at moved
          next fault failed => exact moved ▸ .failed opened missing failed
          next empty created => exact moved ▸ .made opened missing created

theorem Move.of_endClose? (moved : shared.endClose? withdrawal = some next) :
    Move shared (.endClose withdrawal) next := by
  unfold endClose? at moved
  split at moved
  next cache found =>
      obtain ⟨number, current, present⟩ := Option.bind_eq_some_iff.mp found
      split at moved
      next shut =>
          exact Option.some.inj moved ▸ .endClose current present (PageCache.isShut_iff.mp shut)
      next => contradiction
  next => contradiction

theorem Move.of_moveCache? {step : PageCache.Step}
    (moved : shared.moveCache? number step = some next) :
    Move shared (.cache number step) next := by
  unfold moveCache? at moved
  split at moved
  next cache present =>
      obtain ⟨⟨after, notices⟩, stepped, rfl⟩ := Option.map_eq_some_iff.mp moved
      exact .cache present stepped
  next => contradiction

theorem Move.of_move? (moved : shared.move? step = some next) : Move shared step next := by
  cases step with
  | atlas id => exact .of_atlas (Option.some.inj moved)
  | forget id => exact Option.some.inj moved ▸ .forget
  | shut => exact Option.some.inj moved ▸ .shut
  | beginClose withdrawal =>
      obtain ⟨number, current, rfl⟩ := Option.map_eq_some_iff.mp moved
      exact .beginClose current
  | endClose withdrawal => exact .of_endClose? moved
  | cache number step => exact .of_moveCache? moved

theorem Move.possible (move : Move shared step next) : shared.move? step = some next := by
  cases move with
  | refused closed => simp [move?, AtlasService.atlas, closed]
  | found opened held => simp [move?, AtlasService.atlas, opened, held]
  | failed opened missing failed => simp [move?, AtlasService.atlas, opened, missing, failed]
  | made opened missing created => simp [move?, AtlasService.atlas, opened, missing, created]
  | forget | shut => rfl
  | beginClose current => simp [move?, current]
  | endClose current present shut =>
      simp [move?, endClose?, current, present, PageCache.isShut_iff.mpr shut]
  | cache present moved => simp [move?, moveCache?, present, moved]

theorem move?_eq_some_iff : shared.move? step = some next ↔ Move shared step next :=
  ⟨.of_move?, fun move => move.possible⟩

@[simp] theorem run?_nil (shared : Shared) : shared.run? [] = some shared := rfl

@[simp] theorem run?_cons (shared : Shared) (step : Step) (steps : List Step) :
    shared.run? (step :: steps) = (shared.move? step).bind (·.run? steps) := rfl

@[simp] theorem run?_append (shared : Shared) (earlier later : List Step) :
    shared.run? (earlier ++ later) = (shared.run? earlier).bind (·.run? later) :=
  List.foldlM_append

theorem run?_cons_eq_some_iff :
    first.run? (step :: steps) = some last ↔
      ∃ next, Move first step next ∧ next.run? steps = some last := by
  simp only [run?_cons, Option.bind_eq_some_iff, move?_eq_some_iff]

theorem run?_append_eq_some_iff :
    first.run? (earlier ++ later) = some last ↔
      ∃ middle, first.run? earlier = some middle ∧ middle.run? later = some last := by
  simp only [run?_append, Option.bind_eq_some_iff]

theorem run?_rest (ran : first.run? (earlier ++ later) = some last)
    (before : first.run? earlier = some middle) : middle.run? later = some last := by
  rwa [run?_append, before] at ran

theorem Move.unique {other : Shared} (move : Move shared step next)
    (again : Move shared step other) : next = other :=
  Option.some.inj (move.possible.symm.trans again.possible)

theorem Move.run? (move : Move shared step next) : shared.run? [step] = some next := by
  simp [move.possible]

theorem run?_invariant (holds : Shared → Prop)
    (kept : ∀ shared step next, step ∈ steps → holds shared → Move shared step next → holds next)
    (ran : first.run? steps = some last) (initially : holds first) : holds last := by
  induction steps generalizing first with
  | nil => exact Option.some.inj ran ▸ initially
  | cons step steps ih =>
      obtain ⟨next, move, rest⟩ := run?_cons_eq_some_iff.mp ran
      refine ih (fun _ _ _ member => kept _ _ _ (List.mem_cons_of_mem _ member)) rest ?_
      exact kept _ _ _ List.mem_cons_self initially move

theorem Reachable.run? (reachable : Reachable first) (ran : first.run? steps = some last) :
    Reachable last := by
  obtain ⟨service, earlier, new, before⟩ := reachable
  exact ⟨service, earlier ++ steps, new, run?_append_eq_some_iff.mpr ⟨first, before, ran⟩⟩

theorem Reachable.invariant {holds : Shared → Prop}
    (initially : ∀ service, IsNew service → holds { service })
    (kept : ∀ shared step next, holds shared → Move shared step next → holds next)
    (reachable : Reachable shared) : holds shared := by
  obtain ⟨service, steps, new, ran⟩ := reachable
  exact run?_invariant holds (fun _ _ _ _ => kept _ _ _) ran (initially service new)

theorem Move.settings_eq (move : Move shared step next) :
    next.service.defaultId = shared.service.defaultId ∧
      next.service.workers = shared.service.workers ∧
      next.service.evictsFailed = shared.service.evictsFailed ∧
      next.service.order = shared.service.order := by
  cases move <;> exact ⟨rfl, rfl, rfl, rfl⟩

theorem Move.effectiveId_eq (move : Move shared step next) :
    next.service.effectiveId = shared.service.effectiveId := by
  funext id
  unfold AtlasService.effectiveId
  rw [move.settings_eq.1]

theorem effectiveId_eq (ran : first.run? steps = some last) :
    last.service.effectiveId = first.service.effectiveId := by
  refine run?_invariant (·.service.effectiveId = first.service.effectiveId) ?_ ran rfl
  exact fun _ _ _ _ same move => move.effectiveId_eq.trans same

inductive Touches (shared : Shared) (number : Nat) : Step → PageCache.Step → Prop
  | cache (step : PageCache.Step) : Touches shared number (.cache number step) step
  | beginClose {withdrawal : Nat} (current : shared.current? withdrawal = some number) :
      Touches shared number (.beginClose withdrawal) .close

inductive CacheAfter (shared : Shared) (number : Nat) (step : Step) (next : Shared) : Prop
  | same (same : next.service.caches[number]? = shared.service.caches[number]?)
  | made {empty : PageCache} (missing : shared.service.caches[number]? = none)
      (created : PageCache.create shared.service.workers shared.service.evictsFailed
        shared.service.order = .ok empty)
      (present : next.service.caches[number]? = some empty)
  | moved {cache after : PageCache} {inner : PageCache.Step}
      (touches : Touches shared number step inner)
      (before : shared.service.caches[number]? = some cache)
      (moved : PageCache.Move cache inner after)
      (present : next.service.caches[number]? = some after)

theorem Move.cacheAfter (move : Move shared step next) (number : Nat) :
    CacheAfter shared number step next := by
  cases move with
  | refused | found | failed | forget | shut | endClose => exact .same rfl
  | @made id empty opened missing created =>
      rcases Nat.lt_trichotomy number shared.service.caches.length with inside | last | outside
      · exact .same (List.getElem?_append_left inside)
      · subst last
        exact .made (List.getElem?_eq_none (Nat.le_refl _)) created (by simp)
      · have absent : (shared.service.caches ++ [empty])[number]? = none :=
          List.getElem?_eq_none (Nat.le_trans (Nat.le_of_eq List.length_append) outside)
        exact .same (absent.trans (List.getElem?_eq_none (Nat.le_of_lt outside)).symm)
  | @beginClose withdrawal closing current =>
      by_cases same : closing = number
      · subst same
        cases present : shared.service.caches[closing]? with
        | none => exact .same (by simp [closeCache, present])
        | some cache =>
            exact .moved (.beginClose current) present .close
              (by simp [closeCache, present, PageCache.close])
      · exact .same (by simp [closeCache, same])
  | @cache moving step cache after notices present moved =>
      by_cases same : moving = number
      · subst same
        obtain ⟨inside, -⟩ := List.getElem?_eq_some_iff.mp present
        exact .moved (.cache step) present (.of_move? moved) (by simp [withCache, inside])
      · exact .same (by simp [withCache, same])

theorem Move.cache_cases (move : Move shared step next) {cache : PageCache}
    (present : shared.service.caches[number]? = some cache) :
    next.service.caches[number]? = some cache ∨
      ∃ inner after, Touches shared number step inner ∧ PageCache.Move cache inner after ∧
        next.service.caches[number]? = some after := by
  cases move.cacheAfter number with
  | same same => exact .inl (same.trans present)
  | made missing =>
      rw [present] at missing
      contradiction
  | moved touches before moved after =>
      obtain rfl := Option.some.inj (before.symm.trans present)
      exact .inr ⟨_, _, touches, moved, after⟩

end Shared

end AtlasService

end Flipbook
