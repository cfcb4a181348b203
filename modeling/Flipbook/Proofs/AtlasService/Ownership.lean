import Flipbook.Proofs.AtlasService.Sharing
import Mathlib.Data.List.Nodup

/-!
Who has to close a cache. It is registered under one name, or one call has taken it out and closes
it. So no pool is left running once the calls that close caches have returned.
-/

namespace Flipbook.AtlasService.Shared

def withdrawn (shared : Shared) : List Nat := shared.withdrawals.flatMap (·.taken)

def IsClosed (shared : Shared) (number : Nat) : Prop :=
  ∃ cache : PageCache, shared.service.caches[number]? = some cache ∧ cache.IsShut

variable {shared next first middle last : Shared} {step : Step} {steps : List Step}
  {service : AtlasService} {withdrawal : Withdrawal} {name : String} {number : Nat}

theorem withdrawn_withdraw (shared : Shared) (service : AtlasService) (taken : List Nat) :
    (shared.withdraw service taken).withdrawn = shared.withdrawn ++ taken := by
  simp [withdraw, withdrawn]

theorem flatMap_taken_modify (withdrawals : List Withdrawal) (place : Nat) :
    (withdrawals.modify place (·.advance)).flatMap (·.taken) = withdrawals.flatMap (·.taken) := by
  induction withdrawals generalizing place with
  | nil => simp
  | cons first rest ih =>
      cases place with
      | zero => rfl
      | succ place => simp [ih]

theorem mem_withdrawn_of_current? {place : Nat} (current : shared.current? place = some number) :
    number ∈ shared.withdrawn := by
  obtain ⟨withdrawal, present, here⟩ := Option.bind_eq_some_iff.mp current
  exact List.mem_flatMap.mpr
    ⟨withdrawal, List.mem_of_getElem? present, List.mem_of_getElem? here⟩

def pending (withdrawals : List Withdrawal) : Nat :=
  (withdrawals.flatMap (·.remaining)).length

theorem pending_advance {place : Nat} (current : shared.current? place = some number) :
    pending (shared.withdrawals.modify place (·.advance)) < pending shared.withdrawals := by
  obtain ⟨withdrawal, present, here⟩ := Option.bind_eq_some_iff.mp current
  obtain ⟨inside, rfl⟩ := List.getElem?_eq_some_iff.mp present
  obtain ⟨left, -⟩ := List.getElem?_eq_some_iff.mp here
  obtain ⟨earlier, changed, later, whole, length, modified⟩ :=
    List.exists_of_modify Withdrawal.advance inside
  have same : shared.withdrawals[place] = changed := by simp [whole, ← length]
  rw [same] at left
  rw [modified, whole]
  simp only [pending, Withdrawal.remaining, Withdrawal.advance, List.flatMap_append,
    List.flatMap_cons, List.length_append, List.length_drop]
  omega

variable [Limits]

/-- Every cache has one owner: a name in the registry, or a place in one withdrawal. -/
structure Sound (shared : Shared) : Prop where
  owners : (shared.service.registry.map (·.2) ++ shared.withdrawn).Perm
    (List.range shared.service.caches.length)
  names : (Keyed.keys shared.service.registry).Nodup
  emptied : shared.service.closed = true → shared.service.registry = []
  caches : ∀ (number : Nat) (cache : PageCache), shared.service.caches[number]? = some cache →
    cache.Reachable
  finished : ∀ withdrawal ∈ shared.withdrawals,
    ∀ number ∈ withdrawal.taken.take withdrawal.closed, shared.IsClosed number

theorem Sound.of_isNew (new : IsNew service) : Sound { service } := by
  constructor
  · simp [withdrawn, new.caches, new.registry]
  · simp [Keyed.keys, new.registry]
  · exact fun _ => new.registry
  · intro number cache present
    simp [new.caches] at present
  · exact List.forall_mem_nil _

theorem Sound.nodup (sound : Sound shared) :
    (shared.service.registry.map (·.2) ++ shared.withdrawn).Nodup :=
  sound.owners.symm.nodup List.nodup_range

theorem Move.owners (sound : Sound shared) (move : Move shared step next) :
    (next.service.registry.map (·.2) ++ next.withdrawn).Perm
      (List.range next.service.caches.length) := by
  cases move with
  | refused | found | failed => exact sound.owners
  | @made id empty opened missing created =>
      rw [Keyed.set_of_missing missing, List.length_append, List.map_append, List.append_assoc]
      refine (List.Perm.append_left _ List.perm_append_comm).trans ?_
      rw [← List.append_assoc]
      exact (sound.owners.append_right _).trans (List.range_succ ▸ .refl _)
  | @forget id =>
      rw [withdrawn_withdraw, ← List.append_assoc]
      refine List.perm_append_comm.trans ?_
      rw [← List.append_assoc]
      exact ((Keyed.perm_erase sound.names id).append_right _).trans sound.owners
  | shut =>
      have swapped : (shared.withdrawn ++ shared.service.registry.map (·.2)).Perm
          (shared.service.registry.map (·.2) ++ shared.withdrawn) := List.perm_append_comm
      rw [withdrawn_withdraw]
      exact swapped.trans sound.owners
  | beginClose =>
      simpa only [closeCache, List.length_modify, withdrawn] using sound.owners
  | endClose =>
      simpa only [withdrawn, flatMap_taken_modify] using sound.owners
  | cache =>
      simpa only [withCache, List.length_set, withdrawn] using sound.owners

theorem Move.names (sound : Sound shared) (move : Move shared step next) :
    (Keyed.keys next.service.registry).Nodup := by
  cases move with
  | made opened missing created => exact Keyed.nodup_keys_set_of_missing sound.names missing _
  | forget => exact Keyed.nodup_keys_erase sound.names _
  | shut => exact List.nodup_nil
  | _ => exact sound.names

theorem Move.emptied (move : Move shared step next)
    (emptied : shared.service.closed = true → shared.service.registry = [])
    (closed : next.service.closed = true) : next.service.registry = [] := by
  cases move with
  | made opened =>
      rw [show shared.service.closed = true from closed] at opened
      contradiction
  | forget => simp [withdraw, Keyed.erase, emptied closed]
  | shut => rfl
  | _ => exact emptied closed

theorem Move.caches (sound : Sound shared) (move : Move shared step next) {cache : PageCache}
    (present : next.service.caches[number]? = some cache) : cache.Reachable := by
  cases move.cacheAfter number with
  | same same => exact sound.caches number cache (same ▸ present)
  | made _ created after =>
      obtain rfl := Option.some.inj (after.symm.trans present)
      exact ⟨_, _, _, _, _, created, .nil _⟩
  | moved _ before moved after =>
      obtain rfl := Option.some.inj (after.symm.trans present)
      exact (sound.caches number _ before).move moved

theorem Move.isClosed (sound : Sound shared) (move : Move shared step next)
    (closed : shared.IsClosed number) : next.IsClosed number := by
  obtain ⟨cache, present, shut⟩ := closed
  rcases move.cache_cases present with same | ⟨inner, after, -, moved, there⟩
  · exact ⟨cache, same, shut⟩
  · have fetches := (sound.caches number cache present).fetchesSound
    exact ⟨after, there, (shut.move fetches moved).1⟩

theorem Move.mem_withdrawals (move : Move shared step next)
    (member : withdrawal ∈ next.withdrawals) :
    withdrawal ∈ shared.withdrawals ∨ withdrawal.closed = 0 ∨
      ∃ before ∈ shared.withdrawals, ∃ number, withdrawal = before.advance ∧
        before.current? = some number ∧ shared.IsClosed number := by
  have added : ∀ service taken, withdrawal ∈ (shared.withdraw service taken).withdrawals →
      withdrawal ∈ shared.withdrawals ∨ withdrawal.closed = 0 := by
    intro service taken among
    rcases List.mem_append.mp among with before | new
    · exact .inl before
    · exact .inr (List.mem_singleton.mp new ▸ rfl)
  cases move with
  | forget | shut => exact (added _ _ member).imp_right .inl
  | @endClose place number cache current present shut =>
      obtain ⟨index, found⟩ := List.getElem?_of_mem member
      rw [List.getElem?_modify] at found
      obtain ⟨before, known, rfl⟩ := Option.map_eq_some_iff.mp found
      by_cases same : place = index
      · rw [if_pos same]
        rw [current?, same, known, Option.bind_some] at current
        exact .inr (.inr ⟨before, List.mem_of_getElem? known, number, rfl, current,
          cache, present, shut⟩)
      · rw [if_neg same]
        exact .inl (List.mem_of_getElem? known)
  | _ => exact .inl member

theorem Move.finished (sound : Sound shared) (move : Move shared step next)
    (member : withdrawal ∈ next.withdrawals)
    (ended : number ∈ withdrawal.taken.take withdrawal.closed) : next.IsClosed number := by
  refine move.isClosed sound ?_
  rcases move.mem_withdrawals member with before | new | ⟨before, among, other, rfl, current, shut⟩
  · exact sound.finished withdrawal before number ended
  · rw [new, List.take_zero] at ended
    contradiction
  · obtain ⟨inside, here⟩ := List.getElem?_eq_some_iff.mp current
    rw [Withdrawal.advance, List.take_add_one, List.mem_append] at ended
    rcases ended with earlier | latest
    · exact sound.finished before among number earlier
    · rw [List.getElem?_eq_getElem inside, here, Option.toList_some, List.mem_singleton] at latest
      exact latest ▸ shut

theorem Sound.move (sound : Sound shared) (move : Move shared step next) : Sound next where
  owners := move.owners sound
  names := move.names sound
  emptied := move.emptied sound.emptied
  caches _ _ := move.caches sound
  finished _ member _ := move.finished sound member

theorem Reachable.sound (reachable : Reachable shared) : Sound shared :=
  reachable.invariant (fun _ => .of_isNew) fun _ _ _ sound move => sound.move move

theorem Sound.lt_length (sound : Sound shared)
    (held : Keyed.lookup? name shared.service.registry = some number) :
    number < shared.service.caches.length := by
  have registered := List.mem_map_of_mem (f := (·.2)) (Keyed.mem_of_lookup? held)
  exact List.mem_range.mp (sound.owners.subset (List.mem_append_left _ registered))

theorem Sound.not_withdrawn (sound : Sound shared)
    (held : Keyed.lookup? name shared.service.registry = some number) :
    number ∉ shared.withdrawn := by
  intro withdrawn
  have registered := List.mem_map_of_mem (f := (·.2)) (Keyed.mem_of_lookup? held)
  exact (List.nodup_append.mp sound.nodup).2.2 number registered number withdrawn rfl

theorem Sound.eq_name (sound : Sound shared) {other : String}
    (held : Keyed.lookup? name shared.service.registry = some number)
    (again : Keyed.lookup? other shared.service.registry = some number) : other = name := by
  have unique := List.inj_on_of_nodup_map (List.nodup_append.mp sound.nodup).1
  exact congrArg (·.1) (unique (Keyed.mem_of_lookup? again) (Keyed.mem_of_lookup? held) rfl)

theorem Sound.owned (sound : Sound shared) (inside : number < shared.service.caches.length) :
    ((∃! name, Keyed.lookup? name shared.service.registry = some number) ∧
        number ∉ shared.withdrawn) ∨
      ((∀ name, Keyed.lookup? name shared.service.registry ≠ some number) ∧
        shared.withdrawn.count number = 1) := by
  have member := sound.owners.symm.subset (List.mem_range.mpr inside)
  rcases List.mem_append.mp member with registered | withdrawn
  · obtain ⟨⟨name, _⟩, entry, rfl⟩ := List.mem_map.mp registered
    have held := Keyed.lookup?_of_mem sound.names entry
    exact .inl ⟨⟨name, held, fun _ again => sound.eq_name held again⟩, sound.not_withdrawn held⟩
  · refine .inr ⟨fun name held => sound.not_withdrawn held withdrawn, ?_⟩
    exact List.count_eq_one_of_mem (List.nodup_append.mp sound.nodup).2.1 withdrawn

theorem Sound.closing (sound : Sound shared) (member : withdrawal ∈ shared.withdrawals)
    (taken : number ∈ withdrawal.taken) :
    number ∈ withdrawal.remaining ∨ shared.IsClosed number := by
  rw [← List.take_append_drop withdrawal.closed withdrawal.taken] at taken
  rcases List.mem_append.mp taken with earlier | later
  · exact .inr (sound.finished withdrawal member number earlier)
  · exact .inl later

/-- The part of a call that closes caches which is left to do, besides what the workers do. -/
def finishes (taken : List Nat) : Step → Prop
  | .beginClose _ | .endClose _ => True
  | .cache number step => number ∈ taken ∧ (step.isOwn = true ∨ step = .closeFetches)
  | _ => False

structure Closes (first : Shared) (steps : List Step) (last : Shared) : Prop where
  ran : first.run? steps = some last
  only : ∀ step ∈ steps, finishes first.withdrawn step
  registry : last.service.registry = first.service.registry
  withdrawn : last.withdrawn = first.withdrawn

theorem Closes.trans {later : List Step} (before : Closes first steps middle)
    (after : Closes middle later last) : Closes first (steps ++ later) last where
  ran := run?_append_eq_some_iff.mpr ⟨middle, before.ran, after.ran⟩
  only step member := (List.mem_append.mp member).elim (before.only step)
    fun among => before.withdrawn ▸ after.only step among
  registry := after.registry.trans before.registry
  withdrawn := after.withdrawn.trans before.withdrawn

theorem run?_of_trace {cache final : PageCache} {events : List PageCache.Event}
    (trace : PageCache.Trace cache events final)
    (present : shared.service.caches[number]? = some cache) :
    shared.run? (events.map fun event => .cache number event.step) =
      some { shared with service := shared.service.withCache number final } := by
  induction trace generalizing shared with
  | nil cache => rw [withCache_of_present present, List.map_nil, run?_nil]
  | cons moved _ ih =>
      obtain ⟨inside, -⟩ := List.getElem?_eq_some_iff.mp present
      refine run?_cons_eq_some_iff.mpr ⟨_, .cache present moved, ?_⟩
      rw [ih (by simp [withCache, inside])]
      simp only [withCache_withCache]

theorem Sound.closes_one (sound : Sound shared) {place : Nat}
    (current : shared.current? place = some number) :
    ∃ steps next, Closes shared steps next ∧
      next.withdrawals = shared.withdrawals.modify place (·.advance) := by
  have taken := mem_withdrawn_of_current? current
  have inside := List.mem_range.mp (sound.owners.subset (List.mem_append_right _ taken))
  have present := List.getElem?_eq_getElem inside
  generalize shared.service.caches[number] = cache at present
  have reachable : (cache.close).Reachable := (sound.caches number cache present).move .close
  obtain ⟨more, final, trace, own, shut⟩ := reachable.exists_shut rfl
  let closing : Shared := { shared with service := shared.service.closeCache number }
  let waited : Shared := { closing with service := closing.service.withCache number final }
  have begun : Move shared (.beginClose place) closing := .beginClose current
  have waits : closing.run? (more.map fun event => .cache number event.step) = some waited :=
    run?_of_trace trace (by simp [closing, closeCache, present])
  let next : Shared :=
    { waited with withdrawals := shared.withdrawals.modify place (·.advance) }
  have ended : Move waited (.endClose place) next :=
    .endClose current (by simp [waited, closing, withCache, closeCache, inside]) shut
  refine ⟨.beginClose place :: (more.map fun event => .cache number event.step) ++
    [.endClose place], next, ⟨?_, ?_, rfl, ?_⟩, rfl⟩
  · refine run?_append_eq_some_iff.mpr ⟨waited, ?_, ended.run?⟩
    exact run?_cons_eq_some_iff.mpr ⟨closing, begun, waits⟩
  · intro step member
    simp only [List.cons_append, List.mem_cons, List.mem_append, List.mem_map, List.not_mem_nil,
      or_false] at member
    rcases member with rfl | ⟨event, among, rfl⟩ | rfl
    · trivial
    · exact ⟨taken, own event among⟩
    · trivial
  · exact flatMap_taken_modify shared.withdrawals place

theorem Sound.exists_closes (sound : Sound shared) :
    ∃ steps last, Closes shared steps last ∧ ∀ number ∈ shared.withdrawn, last.IsClosed number := by
  induction left : pending shared.withdrawals using Nat.strongRecOn generalizing shared with
  | ind measure ih =>
      by_cases waiting : ∃ place number, shared.current? place = some number
      · obtain ⟨place, number, current⟩ := waiting
        obtain ⟨steps, next, closes, advanced⟩ := sound.closes_one current
        have less := pending_advance current
        have after := run?_invariant Sound (fun _ _ _ _ => Sound.move) closes.ran sound
        obtain ⟨later, last, rest, closed⟩ := ih _ (by omega) after (congrArg pending advanced)
        exact ⟨_, last, closes.trans rest, fun number member => closed number
          (closes.withdrawn.symm ▸ member)⟩
      · refine ⟨[], shared, ⟨rfl, List.forall_mem_nil _, rfl, rfl⟩, fun number member => ?_⟩
        obtain ⟨withdrawal, among, taken⟩ := List.mem_flatMap.mp member
        rcases sound.closing among taken with remaining | closed
        · obtain ⟨place, present⟩ := List.getElem?_of_mem among
          have current := withdrawal.head?_remaining.symm.trans
            (List.head?_eq_some_head (List.ne_nil_of_mem remaining))
          exact absurd ⟨place, _, by rw [current?, present, Option.bind_some, current]⟩ waiting
        · exact closed

end Flipbook.AtlasService.Shared
