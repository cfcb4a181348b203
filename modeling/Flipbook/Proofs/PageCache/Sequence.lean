import Flipbook.Proofs.Frame.Groups
import Flipbook.Proofs.PageCache.Schedule

/-!
What loading a page step by step comes to. It ends with the page, with the failure of a resource,
with a name that no group has, or with a limit of the machine.
-/

namespace Flipbook.PageRequest

variable [Limits]

inductive Shows (request : PageRequest) (results : Results) (frames : List Frame)
    (texture : Value) : Prop
  | intro {metadata : Value} {entries : List (String × Value)}
      (loaded : results .metadata (request.source .metadata) = .ok metadata)
      (drawn : results .image (request.source .image) = .ok texture)
      (read : Metadata.entriesOf metadata = .ok entries)
      (decoded : Metadata.framesOfEntries entries = .ok frames)

inductive MeetsLimit (request : PageRequest) (results : Results) (order : Groups.Order) : Prop
  | name {frames : List Frame} {texture : Value} {frame : Frame}
      (shows : request.Shows results frames texture) (member : frame ∈ frames)
      (overlong : FrameName.IsOverlong frame.name)
  | definition {frames : List Frame} {texture : Value} {groups : Groups}
      (shows : request.Shows results frames texture)
      (grouped : Groups.ofFrames frames order = .ok groups)
      (meets : Page.MeetsLimit { frames, groups, texture } request.definitions)

inductive Ending (request : PageRequest) (results : Results) (order : Groups.Order) :
    Except Fault Page → Prop
  | page (page : Page) (fits : ¬ request.MeetsLimit results order) :
      Ending request results order (.ok page)
  | failed (cause : Fault) (fits : ¬ request.MeetsLimit results order) :
      Ending request results order (.error (.pageBuild request.identity.text cause))
  | unknown {name : String} {frames : List Frame} {texture : Value} {groups : Groups}
      (shows : request.Shows results frames texture)
      (grouped : Groups.ofFrames frames order = .ok groups)
      (listed : name ∈ request.definitions.map (·.1)) (missing : name ∉ groups.keys)
      (fits : ¬ request.MeetsLimit results order) :
      Ending request results order (.error (.unknownAnimation name groups.keys))
  | limited {fault : Fault} (limit : fault.IsLimit) (meets : request.MeetsLimit results order) :
      Ending request results order (.error fault)

variable {request : PageRequest} {results : Results} {order : Groups.Order}
  {frames others : List Frame} {texture other : Value} {fault : Fault}

theorem Shows.unique (shows : request.Shows results frames texture)
    (again : request.Shows results others other) : frames = others ∧ texture = other := by
  obtain ⟨loaded, drawn, read, decoded⟩ := shows
  obtain ⟨loadedAgain, drawnAgain, readAgain, decodedAgain⟩ := again
  simp_all

theorem MeetsLimit.exists_shows (meets : request.MeetsLimit results order) :
    ∃ frames texture, request.Shows results frames texture := by
  cases meets with
  | name shows | definition shows => exact ⟨_, _, shows⟩

theorem Shows.sequential_eq (shows : request.Shows results frames texture) :
    request.sequential results order = (do
      let groups ← Groups.ofFrames frames order
      Page.defined { frames, groups, texture } request.definitions) := by
  obtain ⟨loaded, drawn, read, decoded⟩ := shows
  unfold sequential
  simp only [loaded, drawn, blame_ok, read, decoded, bind, Except.bind]

theorem shows_or_failed (request : PageRequest) (results : Results) (order : Groups.Order) :
    (∃ frames texture, request.Shows results frames texture) ∨
      ((∀ frames texture, ¬ request.Shows results frames texture) ∧ ∃ cause,
        request.sequential results order =
          .error (.pageBuild request.identity.text cause)) := by
  unfold sequential
  cases loaded : results .metadata (request.source .metadata) with
  | error cause =>
      refine .inr ⟨?_, cause, rfl⟩
      rintro frames texture ⟨again, -, -, -⟩
      rw [loaded] at again
      contradiction
  | ok metadata =>
      cases drawn : results .image (request.source .image) with
      | error cause =>
          refine .inr ⟨?_, cause, rfl⟩
          rintro frames texture ⟨-, again, -, -⟩
          rw [drawn] at again
          contradiction
      | ok texture =>
          cases read : Metadata.entriesOf metadata with
          | error cause =>
              refine .inr ⟨?_, cause, by simp [bind, Except.bind, read]⟩
              rintro frames other ⟨again, -, found, -⟩
              rw [Except.ok.inj (loaded.symm.trans again), found] at read
              contradiction
          | ok entries =>
              cases decoded : Metadata.framesOfEntries entries with
              | error cause =>
                  refine .inr ⟨?_, cause, by simp [bind, Except.bind, read, decoded]⟩
                  rintro frames other ⟨again, -, found, shown⟩
                  rw [Except.ok.inj (loaded.symm.trans again), found] at read
                  rw [← Except.ok.inj read, shown] at decoded
                  contradiction
              | ok frames => exact .inl ⟨frames, texture, loaded, drawn, read, decoded⟩

theorem ending_of_shows (shows : request.Shows results frames texture) :
    request.Ending results order (request.sequential results order) := by
  have same : ∀ {others other}, request.Shows results others other →
      frames = others ∧ texture = other := fun again => shows.unique again
  rw [shows.sequential_eq]
  rcases Groups.ofFrames_cases frames order with
    ⟨groups, grouped, short⟩ | ⟨frame, member, overlong, failed⟩
  · have reached : request.MeetsLimit results order →
        Page.MeetsLimit { frames, groups, texture } request.definitions := by
      intro meets
      cases meets with
      | name again member overlong =>
          obtain ⟨rfl, rfl⟩ := same again
          exact absurd overlong (short _ member)
      | definition again regrouped meets =>
          obtain ⟨rfl, rfl⟩ := same again
          rwa [Except.ok.inj (grouped.symm.trans regrouped)]
    simp only [grouped, bind, Except.bind]
    cases Page.ending { frames, groups, texture } request.definitions with
    | applied result fits outcome =>
        rw [outcome]
        exact .page result fun meets => fits (reached meets)
    | unknown name fits listed missing outcome =>
        rw [outcome]
        exact .unknown shows grouped listed missing fun meets => fits (reached meets)
    | limited fault meets limit outcome =>
        rw [outcome]
        exact .limited limit (.definition shows grouped meets)
  · rw [failed]
    exact .limited trivial (.name shows member overlong)

theorem ending (request : PageRequest) (results : Results) (order : Groups.Order) :
    request.Ending results order (request.sequential results order) := by
  rcases request.shows_or_failed results order with ⟨frames, texture, shows⟩ | ⟨none, cause, failed⟩
  · exact ending_of_shows shows
  · rw [failed]
    refine .failed cause fun meets => ?_
    obtain ⟨frames, texture, shows⟩ := meets.exists_shows
    exact none frames texture shows

end Flipbook.PageRequest
