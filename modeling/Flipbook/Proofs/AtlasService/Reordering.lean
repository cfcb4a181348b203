import Flipbook.Proofs.AtlasService.Registry

/-!
Moves of one cache and moves of all others do not depend on each other while the cache is open. So
the former may be made first, each kind in its own order, and nobody can tell the difference.
-/

namespace Flipbook.AtlasService.Shared

def IsOpen (shared : Shared) (number : Nat) : Prop :=
  ∃ cache : PageCache, shared.service.caches[number]? = some cache ∧ cache.buildsClosed = false

def isOn (number : Nat) : Step → Bool
  | .cache other _ => other == number
  | _ => false

variable {shared next first middle last : Shared} {step : Step} {steps own : List Step}
  {inner : PageCache.Step} {number : Nat}

theorem isOn_eq_true_iff : isOn number step = true ↔ ∃ inner, step = .cache number inner := by
  cases step <;> simp [isOn]

theorem IsOpen.lt_length (isOpen : shared.IsOpen number) :
    number < shared.service.caches.length := by
  obtain ⟨cache, present, -⟩ := isOpen
  exact (List.getElem?_eq_some_iff.mp present).1

theorem isOpen_iff {cache : PageCache} (present : shared.service.caches[number]? = some cache) :
    shared.IsOpen number ↔ cache.buildsClosed = false := by
  simp [IsOpen, present]

theorem set_modify_of_ne {caches : List PageCache} {other : Nat} (different : other ≠ number)
    (cache : PageCache) (change : PageCache → PageCache) :
    (caches.modify other change).set number cache =
      (caches.set number cache).modify other change := by
  apply List.ext_getElem?
  intro index
  by_cases here : number = index
  · subst here
    simp [List.getElem?_set, different]
  · simp [List.getElem?_modify, here]

variable [Limits]

theorem Move.length_le (move : Move shared step next) :
    shared.service.caches.length ≤ next.service.caches.length := by
  cases move with
  | made => simp
  | beginClose => exact Nat.le_of_eq (List.length_modify ..).symm
  | cache => exact Nat.le_of_eq List.length_set.symm
  | _ => exact Nat.le_refl _

theorem run?_length_le (ran : first.run? steps = some last) :
    first.service.caches.length ≤ last.service.caches.length := by
  refine run?_invariant (first.service.caches.length ≤ ·.service.caches.length) ?_ ran
    (Nat.le_refl _)
  exact fun _ _ _ _ before move => Nat.le_trans before move.length_le

theorem Move.isOpen_before (move : Move shared step next)
    (inside : number < shared.service.caches.length) (isOpen : next.IsOpen number) :
    shared.IsOpen number := by
  have present := List.getElem?_eq_getElem inside
  rw [isOpen_iff present, ← Bool.not_eq_true]
  rcases move.cache_cases present with same | ⟨inner, after, -, moved, there⟩
  · rwa [isOpen_iff same, ← Bool.not_eq_true] at isOpen
  · rw [isOpen_iff there, ← Bool.not_eq_true] at isOpen
    exact mt moved.buildsClosed isOpen

theorem run?_isOpen_before (ran : first.run? steps = some last)
    (inside : number < first.service.caches.length) (isOpen : last.IsOpen number) :
    first.IsOpen number := by
  induction steps generalizing first with
  | nil => exact Option.some.inj ran ▸ isOpen
  | cons step steps ih =>
      obtain ⟨next, move, rest⟩ := run?_cons_eq_some_iff.mp ran
      exact move.isOpen_before inside (ih rest (Nat.lt_of_lt_of_le inside move.length_le))

theorem Move.cache_eq_of_isOpen (move : Move shared step next)
    (inside : number < shared.service.caches.length) (others : isOn number step = false)
    (isOpen : next.IsOpen number) :
    next.service.caches[number]? = shared.service.caches[number]? := by
  have present := List.getElem?_eq_getElem inside
  rcases move.cache_cases present with same | ⟨inner, after, touches, moved, there⟩
  · exact same.trans present.symm
  · cases touches with
    | cache => simp [isOn] at others
    | beginClose =>
        rw [isOpen_iff there] at isOpen
        cases moved
        contradiction

theorem run?_cache_eq_of_isOpen (ran : first.run? steps = some last)
    (inside : number < first.service.caches.length)
    (others : ∀ step ∈ steps, isOn number step = false) (isOpen : last.IsOpen number) :
    last.service.caches[number]? = first.service.caches[number]? := by
  induction steps generalizing first with
  | nil => rw [Option.some.inj ran]
  | cons step steps ih =>
      obtain ⟨next, move, rest⟩ := run?_cons_eq_some_iff.mp ran
      obtain ⟨here, later⟩ := List.forall_mem_cons.mp others
      have still := Nat.lt_of_lt_of_le inside move.length_le
      rw [ih rest still later]
      exact move.cache_eq_of_isOpen inside here (run?_isOpen_before rest still isOpen)

theorem Move.withCache (move : Move shared step next)
    (inside : number < shared.service.caches.length) (others : isOn number step = false)
    (isOpen : next.IsOpen number) (cache : PageCache) :
    Move { shared with service := shared.service.withCache number cache } step
      { next with service := next.service.withCache number cache } := by
  obtain ⟨known, present, opened⟩ := isOpen
  cases move with
  | refused closed => exact .refused closed
  | found opened held => exact .found opened held
  | failed opened missing failed => exact .failed opened missing failed
  | @made id empty opened missing created =>
      have appended : (shared.service.caches ++ [empty]).set number cache =
          shared.service.caches.set number cache ++ [empty] := List.set_append_left _ _ inside
      have length : shared.service.caches.length =
          (shared.service.caches.set number cache).length := List.length_set.symm
      simp only [AtlasService.withCache, appended, length]
      exact .made opened missing created
  | forget => exact .forget
  | shut => exact .shut
  | @beginClose place other current =>
      have different : other ≠ number := by
        rintro rfl
        simp [closeCache, inside] at present
        simp [← present, PageCache.close] at opened
      simp only [AtlasService.withCache, closeCache, set_modify_of_ne different]
      exact .beginClose current
  | @endClose place other found current there shut =>
      have different : number ≠ other := by
        rintro rfl
        obtain rfl := Option.some.inj (there.symm.trans present)
        simp [shut.buildsClosed] at opened
      exact .endClose current ((List.getElem?_set_ne different).trans there) shut
  | @cache other inner found after notices there moved =>
      have different : other ≠ number := by simpa [isOn] using others
      simp only [AtlasService.withCache, List.set_comm _ _ different]
      exact .cache ((List.getElem?_set_ne (Ne.symm different)).trans there) moved

theorem Move.swap (move : Move shared step middle) (own : Move middle (.cache number inner) last)
    (inside : number < shared.service.caches.length) (others : isOn number step = false)
    (isOpen : middle.IsOpen number) :
    ∃ swapped, Move shared (.cache number inner) swapped ∧ Move swapped step last := by
  have same := move.cache_eq_of_isOpen inside others isOpen
  cases own with
  | @cache _ _ cache after _ present moved =>
      exact ⟨_, .cache (same ▸ present) moved, move.withCache inside others isOpen after⟩

theorem run?_swap (ran : first.run? (step :: own) = some last)
    (inside : number < first.service.caches.length) (others : isOn number step = false)
    (owned : ∀ step ∈ own, isOn number step = true) (isOpen : last.IsOpen number) :
    first.run? (own ++ [step]) = some last := by
  induction own generalizing first with
  | nil => exact ran
  | cons mine own ih =>
      obtain ⟨here, later⟩ := List.forall_mem_cons.mp owned
      obtain ⟨inner, rfl⟩ := isOn_eq_true_iff.mp here
      obtain ⟨middle, move, rest⟩ := run?_cons_eq_some_iff.mp ran
      have still := Nat.lt_of_lt_of_le inside move.length_le
      have middleOpen := run?_isOpen_before rest still isOpen
      obtain ⟨next, moved, rest⟩ := run?_cons_eq_some_iff.mp rest
      obtain ⟨swapped, first, second⟩ := move.swap moved inside others middleOpen
      have inSwapped := Nat.lt_of_lt_of_le inside first.length_le
      refine run?_cons_eq_some_iff.mpr ⟨swapped, first, ih ?_ inSwapped later⟩
      exact run?_cons_eq_some_iff.mpr ⟨next, second, rest⟩

theorem run?_sorted (ran : first.run? steps = some last)
    (inside : number < first.service.caches.length) (isOpen : last.IsOpen number) :
    first.run? (steps.filter (isOn number) ++ steps.filter (!isOn number ·)) = some last := by
  induction steps generalizing first with
  | nil => exact ran
  | cons step steps ih =>
      obtain ⟨next, move, rest⟩ := run?_cons_eq_some_iff.mp ran
      have sorted := ih rest (Nat.lt_of_lt_of_le inside move.length_le)
      cases on : isOn number step with
      | true =>
          rw [List.filter_cons_of_pos on, List.filter_cons_of_neg (by simp [on])]
          exact run?_cons_eq_some_iff.mpr ⟨next, move, sorted⟩
      | false =>
          rw [List.filter_cons_of_neg (by simp [on]), List.filter_cons_of_pos (by simp [on])]
          obtain ⟨middle, own, others⟩ := run?_append_eq_some_iff.mp sorted
          have still := Nat.lt_of_lt_of_le inside move.length_le
          have middleOpen := run?_isOpen_before others
            (Nat.lt_of_lt_of_le still (run?_length_le own)) isOpen
          have swapped := run?_swap (run?_cons_eq_some_iff.mpr ⟨next, move, own⟩) inside on
            (fun _ member => (List.mem_filter.mp member).2) middleOpen
          rw [List.append_cons]
          exact run?_append_eq_some_iff.mpr ⟨middle, swapped, others⟩

theorem run?_first {others : List Step} (ran : first.run? (others ++ [step]) = some last)
    (inside : number < first.service.caches.length) (isOpen : last.IsOpen number)
    (apart : ∀ step ∈ others, isOn number step = false) (mine : isOn number step = true) :
    first.run? (step :: others) = some last := by
  have sorted := run?_sorted ran inside isOpen
  have none : others.filter (isOn number) = [] :=
    List.filter_eq_nil_iff.mpr fun step member => by simp [apart step member]
  have all : others.filter (!isOn number ·) = others :=
    List.filter_eq_self.mpr fun step member => by simp [apart step member]
  simpa [List.filter_append, none, all, mine] using sorted

/-- A move of an open cache may come right after those that the cache made before, and before all
others. It finds the cache as it was. -/
theorem run?_advance (ran : first.run? steps = some middle)
    (own : Move middle (.cache number inner) last)
    (inside : number < first.service.caches.length) (isOpen : last.IsOpen number) :
    ∃ moment, first.run? (steps.filter (isOn number)) = some moment ∧
      moment.service.caches[number]? = middle.service.caches[number]? ∧
      moment.run? (.cache number inner :: steps.filter (!isOn number ·)) = some last := by
  have middleOpen := own.isOpen_before (Nat.lt_of_lt_of_le inside (run?_length_le ran)) isOpen
  obtain ⟨moment, mine, others⟩ :=
    run?_append_eq_some_iff.mp (run?_sorted ran inside middleOpen)
  have still := Nat.lt_of_lt_of_le inside (run?_length_le mine)
  have apart : ∀ step ∈ steps.filter (!isOn number ·), isOn number step = false :=
    fun _ member => by simpa using (List.mem_filter.mp member).2
  have whole := run?_append_eq_some_iff.mpr ⟨middle, others, own.run?⟩
  exact ⟨moment, mine, (run?_cache_eq_of_isOpen others still apart middleOpen).symm,
    run?_first whole still isOpen apart (isOn_eq_true_iff.mpr ⟨inner, rfl⟩)⟩

end Flipbook.AtlasService.Shared
