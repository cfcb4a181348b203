import Flipbook.Proofs.AtlasService.Sharing
import Flipbook.Proofs.PageCache.Settling

/-!
A caller who asks a new service for a page and waits for it. What the caller gets is what comes of
loading the page step by step, provided that the caller waits at all.
-/

namespace Flipbook

namespace PageCache

variable {start : PageCache} {workers : Int} {evictsFailed : Bool} {order : Groups.Order} [Limits]

theorem exists_trace_submit (created : create workers evictsFailed order = .ok start)
    (request : PageRequest) :
    (start.submit request).2.outcome = .ok 0 ∧ ∃ events known,
      Trace start events (start.submit request).1 ∧
      (∀ event ∈ events, event.step = .request request ∨ event.step = .register 0) ∧
      (start.submit request).1.builds[0]? = some known ∧ known.request = request ∧
      known.phase = .queued := by
  obtain ⟨-, rfl⟩ := eq_of_create created
  cases evictsFailed with
  | false =>
      refine ⟨rfl, [⟨_, .request request, _, _⟩], { request }, .step rfl (.nil _), ?_, rfl, rfl,
        rfl⟩
      exact List.forall_mem_singleton.mpr (.inl rfl)
  | true =>
      refine ⟨rfl, [⟨_, .request request, _, _⟩, ⟨_, .register 0, _, _⟩],
        { request, watch := .registered }, .step rfl (.step rfl (.nil _)), ?_, rfl, rfl, rfl⟩
      exact List.forall_mem_cons.mpr ⟨.inl rfl, List.forall_mem_singleton.mpr (.inr rfl)⟩

theorem outcome?_settle_submit {loaders : Loaders}
    (created : create workers evictsFailed order = .ok start) (give : loaders.Give)
    (request : PageRequest) :
    (start.submit request).1.outcome? 0 = none ∧
      ((start.submit request).1.settle loaders).1.outcome? 0 =
        some (request.sequential loaders.results order) := by
  obtain ⟨-, events, known, trace, steps, present, rfl, queued⟩ :=
    exists_trace_submit created request
  refine ⟨by rw [outcome?, present, Option.bind_some, queued]; rfl, ?_⟩
  refine trace.outcome?_settle created ?_ ?_ give present
  · intro event member build resource result known finished
    rcases steps event member with asked | registered
    · rw [asked] at finished
      contradiction
    · rw [registered] at finished
      contradiction
  · intro event member abandons
    rcases steps event member with asked | registered
    · rw [asked] at abandons
      contradiction
    · rw [registered] at abandons
      contradiction

end PageCache

namespace AtlasService

def Patience.Lasts : Patience → Prop
  | .forever => True
  | .seconds limit => checkTime limit = .ok () ∧ isPositive limit = true

theorem await_of_lasts {patience : Patience} (lasts : patience.Lasts)
    (outcome : Except Fault Page) : await patience none (some outcome) = outcome := by
  cases patience with
  | forever => rfl
  | seconds limit =>
      obtain ⟨counted, positive⟩ := lasts
      simp [await, counted, positive, bind, Except.bind]

variable {service : AtlasService}

theorem exists_requestPage (new : IsNew service) (workers : 0 < service.workers)
    (id : Option String) (request : PageRequest) : ∃ start notices,
      PageCache.create service.workers service.evictsFailed service.order = .ok start ∧
      service.requestPage id request =
        ({ service with
            caches := [(start.submit request).1]
            registry := [(service.effectiveId id, 0)] },
          { notices, outcome := .ok (0, 0) }) := by
  have created : PageCache.create service.workers service.evictsFailed service.order =
      .ok { workers := service.workers.toNat, evictsFailed := service.evictsFailed,
            order := service.order } := if_neg (Int.not_le.mpr workers)
  refine ⟨_, (service.requestPage id request).2.notices, created, ?_⟩
  unfold requestPage atlas
  simp only [new.opened, new.registry, new.caches, created, Keyed.lookup?, Report.log,
    Report.bind, Report.ok, requestFrom]
  rfl

structure IsClosed (service : AtlasService) : Prop where
  closed : service.closed = true
  ids : service.ids = []
  caches : ∀ cache ∈ service.caches, cache.buildsClosed = true

structure IsBegun (service : AtlasService) : Prop where
  caches : service.caches.length = 1
  registry : service.registry.map (·.2) = [0]

theorem IsBegun.isClosed_close (begun : IsBegun service) : IsClosed service.close.1 := by
  obtain ⟨cache, single⟩ := List.length_eq_one_iff.mp begun.caches
  unfold close shut
  simp only [begun.registry, List.foldl_cons, List.foldl_nil, closeCache, single]
  exact ⟨rfl, rfl, by simp [PageCache.close]⟩

variable [Limits]

theorem awaitPage_of_isNew {loaders : Loaders} {patience : Patience} (new : IsNew service)
    (workers : 0 < service.workers) (give : loaders.Give) (lasts : patience.Lasts)
    (id : Option String) (request : PageRequest) :
    (service.awaitPage id request patience loaders).2.outcome =
        request.sequential loaders.results service.order ∧
      IsBegun (service.awaitPage id request patience loaders).1 := by
  obtain ⟨start, notices, created, asked⟩ := exists_requestPage new workers id request
  obtain ⟨now, later⟩ := PageCache.outcome?_settle_submit created give request
  unfold awaitPage
  rw [asked]
  refine ⟨?_, rfl, rfl⟩
  change await patience ((start.submit request).1.outcome? 0)
    (((start.submit request).1.settle loaders).1.outcome? 0) = _
  rw [now, later, await_of_lasts lasts]

end AtlasService

end Flipbook
