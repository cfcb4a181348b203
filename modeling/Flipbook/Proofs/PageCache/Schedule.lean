import Flipbook.Proofs.Page.Definitions
import Flipbook.Proofs.PageCache.Closing
import Flipbook.Proofs.PageCache.Progress

/-!
Builds in any schedule of the two pools end as they would if everything happened in turn, given
loads whose results depend on nothing but their sources.
-/

namespace Flipbook

abbrev Results := Resource → Value → Except Fault Value

def Results.fetch (results : Results) (request : PageRequest) : Except Fault (Value × Value) := do
  let metadata ← results .metadata (request.source .metadata)
  let texture ← results .image (request.source .image)
  pure (metadata, texture)

def PageRequest.blame {α : Type} (request : PageRequest) (outcome : Except Fault α) :
    Except Fault α :=
  outcome.mapError (.pageBuild request.identity.text)

@[simp] theorem PageRequest.blame_ok {α : Type} (request : PageRequest) (value : α) :
    request.blame (.ok value) = .ok value := rfl

@[simp] theorem PageRequest.blame_error {α : Type} (request : PageRequest) (fault : Fault) :
    request.blame (.error fault : Except Fault α) =
      .error (.pageBuild request.identity.text fault) := rfl

/-- What becomes of a request when its loads, its page and its definitions come in turn. -/
def PageRequest.sequential [Limits] (request : PageRequest) (results : Results)
    (order : Groups.Order) : Except Fault Page := do
  let metadata ← request.blame (results .metadata (request.source .metadata))
  let texture ← request.blame (results .image (request.source .image))
  let entries ← request.blame (Metadata.entriesOf metadata)
  let frames ← request.blame (Metadata.framesOfEntries entries)
  let groups ← Groups.ofFrames frames order
  Page.defined { frames, groups, texture } request.definitions

def PageRequest.plain (request : PageRequest) : PageRequest := { request with definitions := [] }

namespace Build

variable {request : PageRequest} {order : Groups.Order} {results : Results} [Limits]

theorem conclude_of_error {resources : Except Fault (Value × Value)} {fault : Fault}
    (failed : framesOf resources = .error fault) :
    (conclude request order resources).outcome =
      .error (.pageBuild request.identity.text fault) := by
  unfold conclude
  rw [failed]
  rfl

theorem conclude_of_ok {resources : Except Fault (Value × Value)} {frames : List Frame}
    {texture : Value} (read : framesOf resources = .ok (frames, texture)) :
    conclude request order resources = assemble request order frames texture := by
  unfold conclude
  rw [read]

theorem assemble_of_error {frames : List Frame} {fault : Fault}
    (failed : Groups.ofFrames frames order = .error fault) (texture : Value) :
    (assemble request order frames texture).outcome = .error fault := by
  have page : Page.ofFrames frames order texture = .error fault := by
    rw [Page.ofFrames, failed]
    rfl
  unfold assemble
  rw [page]
  rfl

theorem assemble_of_ok {frames : List Frame} {groups : Groups}
    (grouped : Groups.ofFrames frames order = .ok groups) (texture : Value) :
    (assemble request order frames texture).outcome =
        Page.defined { frames, groups, texture } request.definitions ∧
      Notice.diagnostics (assemble request order frames texture).notices =
        Notice.diagnostics
          (Page.define { frames, groups, texture } request.definitions).2.notices := by
  have page : Page.ofFrames frames order texture = .ok { frames, groups, texture } := by
    rw [Page.ofFrames, grouped]
    rfl
  unfold assemble Page.defined
  rw [page]
  dsimp only
  cases ended : (Page.define { frames, groups, texture } request.definitions).2.outcome with
  | error fault => simp [Report.bind, ended, Except.map]
  | ok done =>
      simp [Report.bind, ended, Except.map, readyRecord, Report.log, Report.ok, Notice.diagnostics]

theorem outcome_conclude_of_loaded {metadata texture : Value} :
    (conclude request order (.ok (metadata, texture))).outcome = (do
      let entries ← request.blame (Metadata.entriesOf metadata)
      let frames ← request.blame (Metadata.framesOfEntries entries)
      let groups ← Groups.ofFrames frames order
      Page.defined { frames, groups, texture } request.definitions) := by
  cases read : Metadata.entriesOf metadata with
  | error fault =>
      have failed : framesOf (.ok (metadata, texture)) = .error fault := by
        simp [framesOf, read, bind, Except.bind]
      rw [conclude_of_error failed]
      rfl
  | ok entries =>
      cases decoded : Metadata.framesOfEntries entries with
      | error fault =>
          have failed : framesOf (.ok (metadata, texture)) = .error fault := by
            simp [framesOf, read, decoded, bind, Except.bind]
          rw [conclude_of_error failed, PageRequest.blame_ok]
          simp [decoded, bind, Except.bind]
      | ok frames =>
          have framed : framesOf (.ok (metadata, texture)) = .ok (frames, texture) := by
            simp [framesOf, read, decoded, bind, Except.bind, pure, Except.pure]
          rw [conclude_of_ok framed, PageRequest.blame_ok]
          cases grouped : Groups.ofFrames frames order with
          | error fault =>
              rw [assemble_of_error grouped]
              simp [decoded, grouped, bind, Except.bind]
          | ok groups =>
              rw [(assemble_of_ok grouped texture).1]
              simp [decoded, grouped, bind, Except.bind]

theorem outcome_conclude : (conclude request order (results.fetch request)).outcome =
    request.sequential results order := by
  cases loaded : results .metadata (request.source .metadata) with
  | error fault =>
      have failed : framesOf (results.fetch request) = .error fault := by
        simp [Results.fetch, framesOf, loaded, bind, Except.bind]
      rw [conclude_of_error failed]
      simp [PageRequest.sequential, loaded, bind, Except.bind]
  | ok metadata =>
      cases drawn : results .image (request.source .image) with
      | error fault =>
          have failed : framesOf (results.fetch request) = .error fault := by
            simp [Results.fetch, framesOf, loaded, drawn, bind, Except.bind]
          rw [conclude_of_error failed]
          simp [PageRequest.sequential, loaded, drawn, bind, Except.bind]
      | ok texture =>
          have fetched : results.fetch request = .ok (metadata, texture) := by
            simp [Results.fetch, loaded, drawn, bind, Except.bind, pure, Except.pure]
          rw [fetched, outcome_conclude_of_loaded]
          simp [PageRequest.sequential, loaded, drawn, bind, Except.bind]

theorem conclude_of_plain {resources : Except Fault (Value × Value)} {page : Page}
    (plain : (conclude request.plain order resources).outcome = .ok page) :
    (conclude request order resources).outcome = page.defined request.definitions ∧
      Notice.diagnostics (conclude request order resources).notices =
        Notice.diagnostics (page.define request.definitions).2.notices := by
  cases read : framesOf resources with
  | error fault =>
      rw [conclude_of_error read] at plain
      contradiction
  | ok pair =>
      obtain ⟨frames, texture⟩ := pair
      rw [conclude_of_ok read] at plain ⊢
      cases grouped : Groups.ofFrames frames order with
      | error fault =>
          rw [assemble_of_error grouped] at plain
          contradiction
      | ok groups =>
          rw [(assemble_of_ok grouped texture).1] at plain
          rw [← show { frames, groups, texture } = page from Except.ok.inj plain]
          exact assemble_of_ok grouped texture

end Build

def Build.Follows (results : Results) (known : Build) : Prop :=
  ∀ resource outcome, known.fetch resource = .finished outcome →
    outcome = results resource (known.request.source resource)

theorem Build.Follows.fetch_eq {results : Results} {known : Build}
    (follows : known.Follows results) {resources : Except Fault (Value × Value)}
    (joined : Fetch.Joined known.metadata known.image resources) :
    results.fetch known.request = resources := by
  cases joined with
  | metadataFailed failed asked =>
      rw [Results.fetch, ← follows .metadata _ failed]
      rfl
  | imageFailed ended failed =>
      rw [Results.fetch, ← follows .metadata _ ended, ← follows .image _ failed]
      rfl
  | both ended drawn =>
      rw [Results.fetch, ← follows .metadata _ ended, ← follows .image _ drawn]
      rfl

namespace PageCache

def Event.Follows (results : Results) (event : Event) : Prop :=
  ∀ build resource result known, event.step = .finishFetch build resource result →
    event.before.builds[build]? = some known →
      result.outcome = results resource (known.request.source resource)

variable {cache next first last : PageCache} {step : Step} {events : List Event}
  {results : Results} {workers : Int} {evictsFailed : Bool} {order : Groups.Order} [Limits]

theorem BuildMove.follows {build : Nat} {known later : Build}
    (move : BuildMove cache build step known later)
    (result : ∀ resource result, step = .finishFetch build resource result →
      result.outcome = results resource (known.request.source resource))
    (follows : known.Follows results) : later.Follows results := by
  cases move with
  | registered | started | refused | concluded | informed => exact follows
  | asked running unasked =>
      intro resource outcome finished
      rw [Build.fetch_setFetch] at finished
      split at finished
      · contradiction
      · rw [Build.request_setFetch]
        exact follows resource outcome finished
  | begun queued =>
      intro resource outcome finished
      rw [Build.fetch_setFetch] at finished
      split at finished
      · contradiction
      · rw [Build.request_setFetch]
        exact follows resource outcome finished
  | ended running =>
      intro resource outcome finished
      rw [Build.fetch_setFetch] at finished
      rw [Build.request_setFetch]
      split at finished
      next same =>
          rw [← Fetch.finished.inj finished, ← same]
          exact result _ _ rfl
      next => exact follows resource outcome finished

theorem Trace.follows (created : create workers evictsFailed order = .ok first)
    (trace : Trace first events last) (given : ∀ event ∈ events, event.Follows results) :
    last.AllBuilds (Build.Follows results) := by
  have kept : ∀ cache step next notices, ⟨cache, step, next, notices⟩ ∈ events →
      FetchesSound cache → cache.AllBuilds (Build.Follows results) → Move cache step next →
        next.AllBuilds (Build.Follows results) := by
    intro cache step next notices member sound before move build later after
    cases move.buildAfter sound after with
    | fresh request _ _ _ _ created =>
        rw [created]
        intro resource outcome finished
        cases resource <;> contradiction
    | same present => exact before build later present
    | changed known present changed =>
        refine changed.follows ?_ (before build known present)
        exact fun resource result ended => given _ member build resource result known ended present
  exact trace.invariant_of_sound kept (.of_create created) (.of_create created)

theorem Trace.order_eq (created : create workers evictsFailed order = .ok first)
    (trace : Trace first events last) : last.order = order := by
  refine trace.invariant (fun cache step next same move => move.order_eq.trans same) ?_
  rw [(eq_of_create created).2]

theorem Trace.outcome_eq (created : create workers evictsFailed order = .ok first)
    (trace : Trace first events last) (given : ∀ event ∈ events, event.Follows results)
    {build : Nat} {known : Build} {outcome : Except Fault Page}
    (present : last.builds[build]? = some known) (ended : known.phase = .resolved outcome)
    (asked : known.unasked? = none) : outcome = known.request.sequential results order := by
  have reachable : Reachable last := ⟨_, _, _, _, _, created, trace⟩
  have sound := reachable.allBuilds_sound build known present
  obtain ⟨resources, joined, rfl⟩ := sound.concluded outcome ended asked
  rw [← (trace.follows created given build known present).fetch_eq joined,
    trace.order_eq created, Build.outcome_conclude]

theorem Trace.outcome_eq_or_abandoned (created : create workers evictsFailed order = .ok first)
    (trace : Trace first events last) (given : ∀ event ∈ events, event.Follows results)
    {build : Nat} {known : Build} {outcome : Except Fault Page}
    (present : last.builds[build]? = some known) (ended : known.phase = .resolved outcome) :
    outcome = known.request.sequential results order ∨
      (outcome = .error .poolClosed ∧ ∃ event ∈ events, event.step = .abandonFetches) := by
  cases asked : known.unasked? with
  | none => exact .inl (trace.outcome_eq created given present ended asked)
  | some resource =>
      have reachable : Reachable last := ⟨_, _, _, _, _, created, trace⟩
      have sound := reachable.allBuilds_sound build known present
      refine .inr ⟨sound.refused outcome resource ended asked, ?_⟩
      by_cases abandoned : ∃ event ∈ events, event.step = .abandonFetches
      · exact abandoned
      · have orderly := trace.orderly created fun event member abandons =>
          abandoned ⟨event, member, abandons⟩
        have none := orderly.asked build known present (by rw [ended]; rfl)
        rw [asked] at none
        contradiction

theorem finishBuild?_spec {build : Nat} {known : Build} {notices : List Notice}
    (moved : cache.finishBuild? build = some (next, notices))
    (present : cache.builds[build]? = some known) :
    ∃ resources, known.joined? = some resources ∧
      next.outcome? build = some (Build.conclude known.request cache.order resources).outcome ∧
      notices = (Build.conclude known.request cache.order resources).notices := by
  simp only [finishBuild?, present] at moved
  split at moved
  next running =>
      obtain ⟨resources, joined, result⟩ := Option.map_eq_some_iff.mp moved
      obtain ⟨rfl, rfl⟩ := Prod.mk.inj result
      refine ⟨resources, joined, ?_, rfl⟩
      rw [outcome?, getElem?_modifyBuild_self present]
      rfl
  next => contradiction

/-- What the builds of a run come to, whatever its schedule. -/
structure MatchesSequence (results : Results) (order : Groups.Order) (events : List Event)
    (last : PageCache) : Prop where
  outcome : ∀ (build : Nat) (known : Build) (outcome : Except Fault Page),
    last.builds[build]? = some known → known.phase = .resolved outcome →
      outcome = known.request.sequential results order ∨
        (outcome = .error .poolClosed ∧ ∃ event ∈ events, event.step = .abandonFetches)
  ends : ∀ (more : List Event) (final : PageCache), Trace last more final →
    (∀ event ∈ more, event.step.isOwn = true) → more.length ≤ last.work ∧
      (IsStill final → final.AllBuilds (·.phase.isResolved = true))
  repeatable : ∀ (workers : Int) (evictsFailed : Bool) (start final : PageCache)
    (others : List Event), create workers evictsFailed order = .ok start →
      Trace start others final → (∀ event ∈ others, event.Follows results) →
      (∀ event ∈ events ++ others, event.step ≠ .abandonFetches) →
      ∀ (build again : Nat) (known other : Build) (outcome result : Except Fault Page),
        last.builds[build]? = some known → final.builds[again]? = some other →
        other.request = known.request → known.phase = .resolved outcome →
        other.phase = .resolved result → result = outcome
  definitions : ∀ event ∈ events, ∀ (build : Nat) (known : Build) (page : Page),
    event.step = .finishBuild build → event.before.builds[build]? = some known →
      known.request.plain.sequential results order = .ok page →
      event.after.outcome? build = some (page.defined known.request.definitions) ∧
        Notice.diagnostics event.notices =
          Notice.diagnostics (page.define known.request.definitions).2.notices

theorem Trace.matchesSequence (created : create workers evictsFailed order = .ok first)
    (trace : Trace first events last) (given : ∀ event ∈ events, event.Follows results) :
    MatchesSequence results order events last := by
  constructor
  · intro build known outcome present ended
    exact trace.outcome_eq_or_abandoned created given present ended
  · intro more final later own
    exact later.ends ⟨_, _, _, _, _, created, trace⟩ own
  · intro workers evictsFailed start final others again second follows waits build index known
      other outcome result present found same ended finished
    have here := trace.outcome_eq_or_abandoned created given present ended
    have there := second.outcome_eq_or_abandoned again follows found finished
    rcases here with here | ⟨-, event, member, abandons⟩
    · rcases there with there | ⟨-, event, member, abandons⟩
      · rw [here, there, same]
      · exact absurd abandons (waits event (List.mem_append_right _ member))
    · exact absurd abandons (waits event (List.mem_append_left _ member))
  · intro event member build known page finished present plain
    obtain ⟨earlier, later, rfl, before, moved, -⟩ := trace.around member
    have follows := before.follows created
      (fun event among => given event (List.mem_append_left _ among)) build known present
    rw [finished] at moved
    obtain ⟨resources, joined, outcome, notices⟩ := finishBuild?_spec moved present
    have fetched := follows.fetch_eq (Build.joined?_eq_some_iff.mp joined)
    rw [outcome, notices, before.order_eq created]
    rw [← Build.outcome_conclude] at plain
    have applied := Build.conclude_of_plain (fetched ▸ plain)
    exact ⟨congrArg some applied.1, applied.2⟩

end PageCache

theorem PageCache.matchesSequence_of_failed_loads : ∃ first events last,
    create 1 false .byName = .ok first ∧ Trace first events last ∧
      last.outcome? 0 =
        some (.error (.pageBuild (PageIdentity.named "hero").text .malformedJson)) ∧
      MatchesSequence
        (fun | .metadata, _ => .error .malformedJson | .image, _ => .error .unreachableUrl)
        .byName events last := by
  have created : create 1 false .byName = .ok { workers := 1 } := rfl
  have trace : Trace { workers := 1 }
      [⟨_, .request { identity := "hero", metadata := .none }, _, _⟩,
        ⟨_, .startBuild, _, _⟩,
        ⟨_, .askFetch 0, _, _⟩,
        ⟨_, .askFetch 0, _, _⟩,
        ⟨_, .startFetch, _, _⟩,
        ⟨_, .startFetch, _, _⟩,
        ⟨_, .finishFetch 0 .image (.fail .unreachableUrl), _, _⟩,
        ⟨_, .finishFetch 0 .metadata (.fail .malformedJson), _, _⟩,
        ⟨_, .finishBuild 0, _, _⟩] _ :=
    .step rfl (.step rfl (.step rfl (.step rfl (.step rfl (.step rfl (.step rfl
      (.step rfl (.step rfl (.nil _)))))))))
  refine ⟨_, _, _, created, trace, rfl, trace.matchesSequence created ?_⟩
  intro event member build resource result known finished present
  simp only [List.mem_cons, List.not_mem_nil, or_false] at member
  rcases member with rfl | rfl | rfl | rfl | rfl | rfl | rfl | rfl | rfl <;> cases finished <;> rfl

end Flipbook
