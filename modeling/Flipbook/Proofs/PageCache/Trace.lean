import Flipbook.Proofs.PageCache.Moves

/-!
Runs of a page cache: any number of moves in any order, each on the cache that the one before left.
What every move keeps holds after every run.
-/

namespace Flipbook.PageCache

/-- A move with the caches before and after it, and what it reports. -/
structure Event where
  before : PageCache
  step : Step
  after : PageCache
  notices : List Notice

theorem eq_of_create {workers : Int} {evictsFailed : Bool} {order : Groups.Order}
    {start : PageCache} (created : create workers evictsFailed order = .ok start) :
    0 < workers ∧ start = { workers := workers.toNat, evictsFailed, order } := by
  unfold create at created
  split at created
  · contradiction
  · exact ⟨by omega, (Except.ok.inj created).symm⟩

variable [Limits]

inductive Trace : PageCache → List Event → PageCache → Prop
  | nil (cache : PageCache) : Trace cache [] cache
  | cons {event : Event} {events : List Event} {last : PageCache}
      (moved : event.before.move? event.step = some (event.after, event.notices))
      (rest : Trace event.after events last) : Trace event.before (event :: events) last

def Reachable (cache : PageCache) : Prop :=
  ∃ workers evictsFailed order start events,
    create workers evictsFailed order = .ok start ∧ Trace start events cache

variable {first middle last : PageCache} {events earlier later : List Event}

theorem Trace.cons_iff {event : Event} :
    Trace first (event :: events) last ↔ first = event.before ∧
      event.before.move? event.step = some (event.after, event.notices) ∧
      Trace event.after events last := by
  constructor
  · intro trace
    cases trace with
    | cons moved rest => exact ⟨rfl, moved, rest⟩
  · rintro ⟨rfl, moved, rest⟩
    exact .cons moved rest

theorem Trace.step {step : Step} {notices : List Notice}
    (moved : first.move? step = some (middle, notices)) (rest : Trace middle events last) :
    Trace first (⟨first, step, middle, notices⟩ :: events) last :=
  cons_iff.mpr ⟨rfl, moved, rest⟩

theorem Trace.append (before : Trace first earlier middle) (after : Trace middle later last) :
    Trace first (earlier ++ later) last := by
  induction before with
  | nil => exact after
  | cons moved _ ih => exact .cons moved (ih after)

theorem Trace.split (trace : Trace first (earlier ++ later) last) :
    ∃ middle, Trace first earlier middle ∧ Trace middle later last := by
  induction earlier generalizing first with
  | nil => exact ⟨first, .nil first, trace⟩
  | cons event earlier ih =>
      obtain ⟨rfl, moved, rest⟩ := cons_iff.mp trace
      obtain ⟨middle, before, after⟩ := ih rest
      exact ⟨middle, .cons moved before, after⟩

theorem Trace.around (trace : Trace first events last) {event : Event} (member : event ∈ events) :
    ∃ earlier later, events = earlier ++ event :: later ∧
      Trace first earlier event.before ∧
      event.before.move? event.step = some (event.after, event.notices) ∧
      Trace event.after later last := by
  obtain ⟨earlier, later, rfl⟩ := List.append_of_mem member
  obtain ⟨middle, before, rest⟩ := trace.split
  obtain ⟨rfl, moved, after⟩ := cons_iff.mp rest
  exact ⟨earlier, later, rfl, before, moved, after⟩

theorem Trace.invariant_of_mem {holds : PageCache → Prop}
    (kept : ∀ cache step next notices, ⟨cache, step, next, notices⟩ ∈ events → holds cache →
      Move cache step next → holds next)
    (trace : Trace first events last) (initially : holds first) : holds last := by
  induction trace with
  | nil => exact initially
  | cons moved _ ih =>
      refine ih (fun _ _ _ _ later => kept _ _ _ _ (List.mem_cons_of_mem _ later)) ?_
      exact kept _ _ _ _ List.mem_cons_self initially (.of_move? moved)

theorem Trace.invariant {holds : PageCache → Prop}
    (kept : ∀ cache step next, holds cache → Move cache step next → holds next)
    (trace : Trace first events last) (initially : holds first) : holds last :=
  trace.invariant_of_mem (fun _ _ _ _ _ => kept _ _ _) initially

theorem Reachable.trace {cache : PageCache} (reachable : Reachable cache)
    (trace : Trace cache events last) : Reachable last := by
  obtain ⟨workers, evictsFailed, order, start, earlier, created, before⟩ := reachable
  exact ⟨workers, evictsFailed, order, start, earlier ++ events, created, before.append trace⟩

theorem Reachable.move {cache next : PageCache} {step : Step} (reachable : Reachable cache)
    (move : Move cache step next) : Reachable next := by
  obtain ⟨notices, moved⟩ := move.possible
  exact reachable.trace (.step moved (.nil next))

theorem Reachable.invariant {holds : PageCache → Prop}
    (initially : ∀ workers evictsFailed order start,
      create workers evictsFailed order = .ok start → holds start)
    (kept : ∀ cache step next, holds cache → Move cache step next → holds next)
    {cache : PageCache} (reachable : Reachable cache) : holds cache := by
  obtain ⟨workers, evictsFailed, order, start, events, created, trace⟩ := reachable
  exact trace.invariant kept (initially _ _ _ _ created)

theorem Reachable.invariant_of_reachable {holds : PageCache → Prop}
    (initially : ∀ workers evictsFailed order start,
      create workers evictsFailed order = .ok start → holds start)
    (kept : ∀ cache step next, Reachable cache → holds cache → Move cache step next → holds next)
    {cache : PageCache} (reachable : Reachable cache) : holds cache := by
  have first : ∀ workers evictsFailed order start,
      create workers evictsFailed order = .ok start → Reachable start ∧ holds start := by
    intro workers evictsFailed order start created
    exact ⟨⟨_, _, _, _, _, created, .nil start⟩, initially _ _ _ _ created⟩
  have both : ∀ cache step next, Reachable cache ∧ holds cache → Move cache step next →
      Reachable next ∧ holds next := by
    rintro cache step next ⟨before, holding⟩ move
    exact ⟨before.move move, kept cache step next before holding move⟩
  exact (invariant first both reachable).2

end Flipbook.PageCache
