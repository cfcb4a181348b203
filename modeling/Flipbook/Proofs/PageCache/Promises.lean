import Flipbook.Proofs.Frame.Groups
import Flipbook.Proofs.PageCache.Schedule
import Flipbook.Proofs.PageCache.SingleFlight

/-!
What one who asks for a page is promised: the page, a failure under the asked identity with its
cause, or the name of an animation that the page does not have. The promise is kept but for limits
of the machine, a cache that was closed at once, and an identity that shares its key.
-/

namespace Flipbook

namespace Build

variable [Limits]

/-- The reasons for which resources hold no frames, in the order in which they decide. -/
inductive Cause (known : Build) : Fault → Prop
  | metadata {fault : Fault} (failed : known.metadata = .finished (.error fault)) :
      Cause known fault
  | image {metadata : Value} {fault : Fault} (loaded : known.metadata = .finished (.ok metadata))
      (failed : known.image = .finished (.error fault)) : Cause known fault
  | entries {metadata texture : Value} {fault : Fault}
      (loaded : known.metadata = .finished (.ok metadata))
      (drawn : known.image = .finished (.ok texture))
      (malformed : Metadata.entriesOf metadata = .error fault) : Cause known fault
  | frames {metadata texture : Value} {entries : List (String × Value)} {fault : Fault}
      (loaded : known.metadata = .finished (.ok metadata))
      (drawn : known.image = .finished (.ok texture))
      (read : Metadata.entriesOf metadata = .ok entries)
      (malformed : Metadata.framesOfEntries entries = .error fault) : Cause known fault

inductive Holds (known : Build) (frames : List Frame) (texture : Value) : Prop
  | intro {metadata : Value} {entries : List (String × Value)}
      (loaded : known.metadata = .finished (.ok metadata))
      (drawn : known.image = .finished (.ok texture))
      (read : Metadata.entriesOf metadata = .ok entries)
      (decoded : Metadata.framesOfEntries entries = .ok frames)

inductive MeetsLimit (known : Build) (order : Groups.Order) : Prop
  | name {frames : List Frame} {texture : Value} {frame : Frame}
      (holds : known.Holds frames texture) (member : frame ∈ frames)
      (overlong : FrameName.IsOverlong frame.name)
  | definition {frames : List Frame} {texture : Value} {groups : Groups}
      (holds : known.Holds frames texture) (grouped : Groups.ofFrames frames order = .ok groups)
      (meets : Page.MeetsLimit { frames, groups, texture } known.request.definitions)

inductive Promised (known : Build) (order : Groups.Order) (identity : String) :
    Except Fault Page → Prop
  | page (page : Page) : Promised known order identity (.ok page)
  | failed {cause : Fault} (caused : known.Cause cause) :
      Promised known order identity (.error (.pageBuild identity cause))
  | unknown {frames : List Frame} {texture : Value} {groups : Groups} {name : String}
      (holds : known.Holds frames texture) (grouped : Groups.ofFrames frames order = .ok groups)
      (listed : name ∈ known.request.definitions.map (·.1)) (missing : name ∉ groups.keys) :
      Promised known order identity (.error (.unknownAnimation name groups.keys))

structure KeepsPromise (known : Build) (order : Groups.Order) (identity : String) : Prop where
  served : known.unasked? = none
  fits : ¬ known.MeetsLimit order
  named : ∀ cause, known.Cause cause → known.request.identity.text = identity

inductive Escape (known : Build) : Except Fault Page → Prop
  | limit {fault : Fault} (limit : fault.IsLimit) : Escape known (.error fault)
  | closed : Escape known (.error .poolClosed)
  | renamed {cause : Fault} (caused : known.Cause cause) :
      Escape known (.error (.pageBuild known.request.identity.text cause))

variable {known : Build} {order : Groups.Order} {frames others : List Frame}
  {texture other : Value} {fault : Fault}

theorem Holds.unique (holds : known.Holds frames texture) (again : known.Holds others other) :
    frames = others ∧ texture = other := by
  obtain ⟨loaded, drawn, read, decoded⟩ := holds
  obtain ⟨loadedAgain, drawnAgain, readAgain, decodedAgain⟩ := again
  simp_all

theorem Holds.not_cause (holds : known.Holds frames texture) : ¬ known.Cause fault := by
  obtain ⟨loaded, drawn, read, decoded⟩ := holds
  intro cause
  cases cause <;> simp_all

theorem framesOf_cases {resources : Except Fault (Value × Value)}
    (joined : Fetch.Joined known.metadata known.image resources) :
    (∃ cause, framesOf resources = .error cause ∧ known.Cause cause) ∨
      ∃ frames texture,
        framesOf resources = .ok (frames, texture) ∧ known.Holds frames texture := by
  cases joined with
  | metadataFailed failed asked => exact .inl ⟨_, rfl, .metadata failed⟩
  | imageFailed loaded failed => exact .inl ⟨_, rfl, .image loaded failed⟩
  | @both metadata texture loaded drawn =>
      cases read : Metadata.entriesOf metadata with
      | error fault =>
          refine .inl ⟨fault, ?_, .entries loaded drawn read⟩
          simp [framesOf, read, bind, Except.bind]
      | ok entries =>
          cases decoded : Metadata.framesOfEntries entries with
          | error fault =>
              refine .inl ⟨fault, ?_, .frames loaded drawn read decoded⟩
              simp [framesOf, read, decoded, bind, Except.bind]
          | ok frames =>
              refine .inr ⟨frames, texture, ?_, loaded, drawn, read, decoded⟩
              simp [framesOf, read, decoded, bind, Except.bind, pure, Except.pure]

theorem not_promised_of_isLimit {identity : String} (limit : fault.IsLimit) :
    ¬ known.Promised order identity (.error fault) := by
  intro promised
  cases promised <;> exact limit

/-- The outcome of a build beside what was promised: either the promise and its conditions hold, or
neither of them does and the outcome is one of the escapes. -/
inductive Verdict (known : Build) (order : Groups.Order) (identity : String)
    (outcome : Except Fault Page) : Prop
  | kept (promised : known.Promised order identity outcome)
      (keeps : known.KeepsPromise order identity)
  | broken (promised : ¬ known.Promised order identity outcome)
      (keeps : ¬ known.KeepsPromise order identity) (escape : known.Escape outcome)

theorem Holds.keepsPromise {identity : String} (holds : known.Holds frames texture)
    (served : known.unasked? = none) (short : ∀ frame ∈ frames, ¬ FrameName.IsOverlong frame.name)
    (fits : ∀ groups, Groups.ofFrames frames order = .ok groups →
      ¬ Page.MeetsLimit { frames, groups, texture } known.request.definitions) :
    known.KeepsPromise order identity := by
  refine ⟨served, ?_, fun cause caused => absurd caused holds.not_cause⟩
  intro meets
  cases meets with
  | name again member overlong =>
      obtain ⟨rfl, rfl⟩ := holds.unique again
      exact short _ member overlong
  | definition again grouped meets =>
      obtain ⟨rfl, rfl⟩ := holds.unique again
      exact fits _ grouped meets

theorem verdict_of_cause {cause : Fault} (served : known.unasked? = none)
    (caused : known.Cause cause) (identity : String) : Verdict known order identity
      (.error (.pageBuild known.request.identity.text cause)) := by
  by_cases same : known.request.identity.text = identity
  · refine .kept (same ▸ .failed caused) ⟨served, ?_, fun _ _ => same⟩
    intro meets
    cases meets with
    | name holds _ _ => exact holds.not_cause caused
    | definition holds _ _ => exact holds.not_cause caused
  · refine .broken ?_ (fun keeps => same (keeps.named cause caused)) (.renamed caused)
    intro promised
    cases promised
    exact same rfl

theorem verdict_of_holds (served : known.unasked? = none) (holds : known.Holds frames texture)
    (identity : String) : Verdict known order identity
      (assemble known.request order frames texture).outcome := by
  rcases Groups.ofFrames_cases frames order with
    ⟨groups, grouped, short⟩ | ⟨frame, member, overlong, failed⟩
  · rw [(assemble_of_ok grouped texture).1]
    have same : ∀ again, Groups.ofFrames frames order = .ok again → groups = again :=
      fun again found => Except.ok.inj (grouped.symm.trans found)
    cases Page.ending { frames, groups, texture } known.request.definitions with
    | applied result fits outcome =>
        rw [outcome]
        exact .kept (.page result)
          (holds.keepsPromise served short fun again found => same again found ▸ fits)
    | unknown name fits listed missing outcome =>
        rw [outcome]
        exact .kept (.unknown holds grouped listed missing)
          (holds.keepsPromise served short fun again found => same again found ▸ fits)
    | limited fault meets limit outcome =>
        rw [outcome]
        exact .broken (not_promised_of_isLimit limit)
          (fun keeps => keeps.fits (.definition holds grouped meets)) (.limit limit)
  · rw [assemble_of_error failed]
    exact .broken (not_promised_of_isLimit trivial)
      (fun keeps => keeps.fits (.name holds member overlong)) (.limit trivial)

theorem Sound.verdict {outcome : Except Fault Page} (sound : known.Sound order)
    (ended : known.phase = .resolved outcome) (identity : String) :
    Verdict known order identity outcome := by
  cases asked : known.unasked? with
  | some resource =>
      rw [sound.refused outcome resource ended asked]
      refine .broken nofun ?_ .closed
      intro keeps
      rw [keeps.served] at asked
      contradiction
  | none =>
      obtain ⟨resources, joined, rfl⟩ := sound.concluded outcome ended asked
      rcases framesOf_cases joined with ⟨cause, failed, caused⟩ | ⟨frames, texture, read, holds⟩
      · rw [conclude_of_error failed]
        exact verdict_of_cause asked caused identity
      · rw [conclude_of_ok read]
        exact verdict_of_holds asked holds identity

end Build

namespace PageCache

variable [Limits]

/-- What a request comes to that was answered with a build: the build is one for the same key, it
ends by itself, and it ends as promised exactly under the conditions of the promise. -/
structure Fulfilled (events : List Event) (last : PageCache) (event : Event)
    (request : PageRequest) (known : Build) : Prop where
  key : keyFor known.request.identity = keyFor request.identity
  own : event.misses = true → known.request = request
  ends : ∀ (more : List Event) (final : PageCache), Trace last more final →
    (∀ event ∈ more, event.step.isOwn = true) → more.length ≤ last.work ∧
      (IsStill final → final.AllBuilds (·.phase.isResolved = true))
  promised_iff : ∀ outcome, known.phase = .resolved outcome →
    (known.Promised last.order request.identity.text outcome ↔
      known.KeepsPromise last.order request.identity.text)
  escape : ∀ outcome, known.phase = .resolved outcome →
    ¬ known.Promised last.order request.identity.text outcome → known.Escape outcome
  served : known.phase.isResolved = true → known.unasked? ≠ none →
    ∃ event ∈ events, event.step = .abandonFetches

variable {first last : PageCache} {events : List Event} {event : Event} {request : PageRequest}
  {build : Nat} {workers : Int} {evictsFailed : Bool} {order : Groups.Order}

theorem Trace.fulfilled (created : create workers evictsFailed order = .ok first)
    (trace : Trace first events last) (member : event ∈ events)
    (answers : event.Answers request build) :
    ∃ known, last.builds[build]? = some known ∧ Fulfilled events last event request known := by
  have reachable : Reachable last := ⟨_, _, _, _, _, created, trace⟩
  obtain ⟨known, present, key, own⟩ := answers.exists_build created trace member
  have sound := reachable.allBuilds_sound build known present
  refine ⟨known, present, key, own, ?_, ?_, ?_, ?_⟩
  · exact fun more final later own => later.ends reachable own
  · intro outcome ended
    cases sound.verdict ended request.identity.text with
    | kept promised keeps => exact iff_of_true promised keeps
    | broken promised keeps _ => exact iff_of_false promised keeps
  · intro outcome ended broken
    cases sound.verdict ended request.identity.text with
    | kept promised _ => exact absurd promised broken
    | broken _ _ escape => exact escape
  · intro resolved refused
    by_cases abandoned : ∃ event ∈ events, event.step = .abandonFetches
    · exact abandoned
    · have orderly := trace.orderly created fun event member abandons =>
        abandoned ⟨event, member, abandons⟩
      exact absurd (orderly.asked build known present resolved) refused

def digitsMetadata (count : Nat) : Value :=
  .map [("frames", .list [.map [("name", .text (String.ofList (List.replicate count '1')))]])]

theorem conclude_digitsMetadata {count : Nat} (many : Text.maxDigits < count)
    (texture : Value) :
    (Build.conclude request order (.ok (digitsMetadata count, texture))).outcome =
      .error (.digitLimit count) := by
  have digits : FrameName.trailingDigits (String.ofList (List.replicate count '1')) =
      List.replicate count '1' := by
    simp [FrameName.trailingDigits, Text.isAsciiDigit, Text.asciiDigit?]
  have read : Build.framesOf (.ok (digitsMetadata count, texture)) =
      .ok ([{ name := String.ofList (List.replicate count '1') }], texture) := rfl
  rw [Build.conclude_of_ok read]
  rcases Groups.ofFrames_cases [{ name := String.ofList (List.replicate count '1') }] order with
    ⟨groups, -, short⟩ | ⟨frame, member, -, failed⟩
  · refine absurd ?_ (short _ List.mem_cons_self)
    rwa [FrameName.IsOverlong, digits, List.length_replicate]
  · rw [Build.assemble_of_error failed, List.mem_singleton.mp member, digits,
      List.length_replicate]

end PageCache

theorem PageCache.fulfilled_of_overlong_name : ∃ first events last event request known,
    create 1 false .byName = .ok first ∧ Trace first events last ∧ event ∈ events ∧
      event.Answers request 0 ∧ last.builds[0]? = some known ∧
      known.phase = .resolved (.error (.digitLimit 4301)) ∧
      Fulfilled events last event request known := by
  have created : create 1 false .byName = .ok { workers := 1 } := rfl
  have trace : Trace { workers := 1 }
      [⟨_, .request { identity := "hero", metadata := .none }, _, _⟩,
        ⟨_, .startBuild, _, _⟩,
        ⟨_, .askFetch 0, _, _⟩,
        ⟨_, .askFetch 0, _, _⟩,
        ⟨_, .startFetch, _, _⟩,
        ⟨_, .startFetch, _, _⟩,
        ⟨_, .finishFetch 0 .metadata (.ok (digitsMetadata 4301)), _, _⟩,
        ⟨_, .finishFetch 0 .image (.ok .none), _, _⟩,
        ⟨_, .finishBuild 0, _, _⟩] _ :=
    .step rfl (.step rfl (.step rfl (.step rfl (.step rfl (.step rfl (.step rfl
      (.step rfl (.step rfl (.nil _)))))))))
  obtain ⟨known, present, fulfilled⟩ := trace.fulfilled created List.mem_cons_self ⟨rfl, rfl⟩
  refine ⟨_, _, _, _, _, known, created, trace, List.mem_cons_self, ⟨rfl, rfl⟩, present, ?_,
    fulfilled⟩
  have same := Option.some.inj present
  rw [← same]
  exact congrArg Phase.resolved (conclude_digitsMetadata (by decide) .none)

end Flipbook
