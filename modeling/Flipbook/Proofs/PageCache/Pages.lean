import Flipbook.Proofs.PageCache.Builds

/-!
The pages that are kept. A page stays under the key of the request that made it until a move drops
it, and no move puts another one in its place.
-/

namespace Flipbook.PageCache

variable {cache next first last : PageCache} {step : Step} {events : List Event} {key : Int}
  {build : Nat} {known : Build}

def PagesMatch (cache : PageCache) : Prop :=
  ∀ key build, (key, build) ∈ cache.pages →
    ∃ known, cache.builds[build]? = some known ∧ keyFor known.request.identity = key

theorem PagesMatch.keyFor_eq (pages : PagesMatch cache)
    (held : Keyed.lookup? key cache.pages = some build)
    (present : cache.builds[build]? = some known) : keyFor known.request.identity = key := by
  obtain ⟨owner, found, same⟩ := pages key build (Keyed.mem_of_lookup? held)
  rw [← same, Option.some.inj (present.symm.trans found)]

def LoadsMatch (cache : PageCache) : Prop :=
  ∀ load ∈ cache.loads, ∃ known, cache.builds[load.build]? = some known ∧
    load.source = known.request.source load.resource

variable [Limits]

theorem Move.nodup_pages (move : Move cache step next) (nodup : (Keyed.keys cache.pages).Nodup) :
    (Keyed.keys next.pages).Nodup := by
  cases move with
  | accepted missing => exact Keyed.nodup_keys_set_of_missing nodup missing _
  | informDropped | evict => exact Keyed.nodup_keys_erase nodup _
  | clear => exact List.nodup_nil
  | _ => exact nodup

theorem Reachable.nodup_pages (reachable : Reachable cache) :
    (Keyed.keys cache.pages).Nodup := by
  refine reachable.invariant ?_ fun cache step next nodup move => move.nodup_pages nodup
  intro workers evictsFailed order start created
  rw [(eq_of_create created).2]
  exact List.nodup_nil

theorem Move.mem_pages (move : Move cache step next) (member : (key, build) ∈ next.pages) :
    (key, build) ∈ cache.pages ∨
      ∃ known : Build, next.builds[build]? = some known ∧ keyFor known.request.identity = key := by
  cases move with
  | accepted missing opened =>
      rcases Keyed.mem_set member with fresh | old
      · obtain ⟨rfl, rfl⟩ := Prod.mk.inj fresh
        exact .inr ⟨_, List.getElem?_concat_length, rfl⟩
      · exact .inl old
  | informDropped | evict => exact .inl (List.mem_filter.mp member).1
  | clear => contradiction
  | _ => exact .inl member

theorem PagesMatch.move (sound : FetchesSound cache) (pages : PagesMatch cache)
    (move : Move cache step next) : PagesMatch next := by
  intro key build member
  rcases move.mem_pages member with old | fresh
  · obtain ⟨known, present, same⟩ := pages key build old
    obtain ⟨later, after, continues⟩ := move.continues sound present
    exact ⟨later, after, by rw [continues.request_eq, same]⟩
  · exact fresh

theorem LoadsMatch.move (sound : FetchesSound cache) (loads : LoadsMatch cache)
    (move : Move cache step next) : LoadsMatch next := by
  have kept : ∀ load ∈ cache.loads, ∃ known, next.builds[load.build]? = some known ∧
      load.source = known.request.source load.resource := by
    intro load member
    obtain ⟨known, present, same⟩ := loads load member
    obtain ⟨later, after, continues⟩ := move.continues sound present
    exact ⟨later, after, by rw [continues.request_eq, same]⟩
  intro load member
  cases move.fetchChange with
  | none queue same fetches => exact kept load (same ▸ member)
  | asked build resource absent queue same fetches => exact kept load (same ▸ member)
  | ended build resource outcome running queue same fetches => exact kept load (same ▸ member)
  | begun build resource known present queue added fetches =>
      rw [added, List.mem_append, List.mem_singleton] at member
      rcases member with old | rfl
      · exact kept load old
      · obtain ⟨later, after, continues⟩ := move.continues sound present
        exact ⟨later, after, by rw [continues.request_eq]⟩

theorem Reachable.pagesMatch (reachable : Reachable cache) : PagesMatch cache := by
  refine reachable.invariant_of_sound ?_ fun cache step next sound pages move =>
    pages.move sound move
  intro workers evictsFailed order start created
  obtain ⟨-, rfl⟩ := eq_of_create created
  exact nofun

theorem Reachable.loadsMatch (reachable : Reachable cache) : LoadsMatch cache := by
  refine reachable.invariant_of_sound ?_ fun cache step next sound loads move =>
    loads.move sound move
  intro workers evictsFailed order start created
  obtain ⟨-, rfl⟩ := eq_of_create created
  exact nofun

theorem Move.lookup?_pages (move : Move cache step next)
    (held : Keyed.lookup? key cache.pages = some build) :
    Keyed.lookup? key next.pages = some build ∨ Keyed.lookup? key next.pages = none := by
  have erased : ∀ other, Keyed.lookup? key (Keyed.erase cache.pages other) = some build ∨
      Keyed.lookup? key (Keyed.erase cache.pages other) = none := by
    intro other
    by_cases equal : other = key
    · exact .inr (equal ▸ Keyed.lookup?_erase_self _ _)
    · exact .inl ((Keyed.lookup?_erase_of_ne equal _).trans held)
  cases move with
  | @accepted request missing opened =>
      have different : keyFor request.identity ≠ key := by
        intro equal
        rw [equal, held] at missing
        contradiction
      exact .inl ((Keyed.lookup?_set_of_ne different _ _).trans held)
  | informDropped | evict => exact erased _
  | clear => exact .inr rfl
  | _ => exact .inl held

theorem Move.lookup?_before (move : Move cache step next)
    (held : Keyed.lookup? key next.pages = some build) :
    Keyed.lookup? key cache.pages = some build ∨ build = cache.builds.length := by
  cases move with
  | @accepted request missing =>
      by_cases same : keyFor request.identity = key
      · rw [same, Keyed.lookup?_set_self] at held
        exact .inr (Option.some.inj held).symm
      · exact .inl ((Keyed.lookup?_set_of_ne same _ _).symm.trans held)
  | informDropped | evict => exact .inl (Keyed.lookup?_of_erase held)
  | clear => contradiction
  | _ => exact .inl held

theorem Move.lookup?_of_closed (move : Move cache step next) (closed : cache.buildsClosed = true)
    (held : Keyed.lookup? key next.pages = some build) :
    Keyed.lookup? key cache.pages = some build := by
  cases move with
  | accepted missing opened =>
      rw [closed] at opened
      contradiction
  | informDropped | evict => exact Keyed.lookup?_of_erase held
  | clear => contradiction
  | _ => exact held

def Event.Removes (event : Event) (key : Int) : Prop :=
  Keyed.contains event.before.pages key = true ∧ Keyed.contains event.after.pages key = false

theorem Trace.lookup?_pages (trace : Trace first events last)
    (held : Keyed.lookup? key first.pages = some build) :
    Keyed.lookup? key last.pages = some build ∨ ∃ event ∈ events, event.Removes key := by
  induction trace with
  | nil => exact .inl held
  | @cons event events last moved _ ih =>
      rcases (Move.of_move? moved).lookup?_pages held with kept | dropped
      · rcases ih kept with kept | ⟨later, member, removes⟩
        · exact .inl kept
        · exact .inr ⟨later, List.mem_cons_of_mem _ member, removes⟩
      · refine .inr ⟨event, List.mem_cons_self, ?_⟩
        simp [Event.Removes, Keyed.contains, held, dropped]

end Flipbook.PageCache
