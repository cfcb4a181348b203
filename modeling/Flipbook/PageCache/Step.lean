import Flipbook.PageCache

/-!
The moves of a page cache and of its two pools. Every move is atomic, and any move that is possible
may be the next. Those who asked for a page may wait for it or look at it, but do not cancel it:
only its build ends it.
-/

namespace Flipbook.PageCache

inductive Step
  | request (request : PageRequest)
  | register (build : Nat)
  | startBuild
  | askFetch (build : Nat)
  | startFetch
  | finishFetch (build : Nat) (resource : Resource) (result : Report Value)
  | finishBuild (build : Nat)
  | inform (build : Nat)
  | evict (identity : PageIdentity)
  | clear
  | close
  | closeFetches
  | abandonFetches

def runningBuilds (cache : PageCache) : Nat := cache.builds.countP (·.phase.isRunning)

def runningFetches (cache : PageCache) : Nat :=
  cache.builds.countP (·.metadata.isRunning) + cache.builds.countP (·.image.isRunning)

def startBuild? (cache : PageCache) : Option PageCache :=
  if cache.runningBuilds < cache.workers then
    (cache.builds.findIdx? (·.phase.isQueued)).map fun build =>
      cache.modifyBuild build fun known => { known with phase := .running }
  else none

def askFetch? (cache : PageCache) (build : Nat) : Option PageCache :=
  match cache.builds[build]? with
  | some known =>
    if known.phase.isRunning then
      known.unasked?.map fun resource =>
        if cache.fetchesClosed then
          cache.modifyBuild build fun known =>
            { known with phase := .resolved (.error .poolClosed) }
        else
          { cache.modifyBuild build (·.setFetch resource .queued) with
            fetchQueue := cache.fetchQueue ++ [(build, resource)] }
    else none
  | none => none

def startFetch? (cache : PageCache) : Option PageCache :=
  if cache.runningFetches < 2 * cache.workers then
    match cache.fetchQueue with
    | [] => none
    | (build, resource) :: waiting =>
      (cache.builds[build]?).map fun known =>
        { cache.modifyBuild build (·.setFetch resource .running) with
          fetchQueue := waiting
          loads := cache.loads ++ [⟨build, resource, known.request.source resource⟩] }
  else none

def finishFetch? (cache : PageCache) (build : Nat) (resource : Resource) (result : Report Value) :
    Option (PageCache × List Notice) :=
  match cache.builds[build]? with
  | some known =>
    if (known.fetch resource).isRunning then
      some (cache.modifyBuild build (·.setFetch resource (.finished result.outcome)),
        result.notices)
    else none
  | none => none

variable [Limits]

def finishBuild? (cache : PageCache) (build : Nat) : Option (PageCache × List Notice) :=
  match cache.builds[build]? with
  | some known =>
    if known.phase.isRunning then
      known.joined?.map fun resources =>
        let report := Build.conclude known.request cache.order resources
        (cache.modifyBuild build fun known =>
          { known with phase := .resolved report.outcome }, report.notices)
    else none
  | none => none

def dropBuild (cache : PageCache) (key : Int) (build : Nat) : PageCache × List Notice :=
  if Keyed.lookup? key cache.pages = some build then
    ({ cache with pages := Keyed.erase cache.pages key },
      [.record ⟨Build.logger, .debug,
        "Evicted failed atlas page (key " ++ toString key ++ ")"⟩])
  else (cache, [])

/-- The end of a build reaches the one who asked to be told. A failed build is dropped then, unless
another one has taken its place. -/
def inform? (cache : PageCache) (build : Nat) : Option (PageCache × List Notice) :=
  match cache.builds[build]? with
  | some known =>
    if known.watch = .registered then
      let informed := cache.modifyBuild build fun known => { known with watch := .informed }
      match known.phase with
      | .resolved (.error _) => some (informed.dropBuild (keyFor known.request.identity) build)
      | .resolved (.ok _) => some (informed, [])
      | _ => none
    else none
  | none => none

def closeFetches? (cache : PageCache) : Option PageCache :=
  if cache.buildsClosed && !cache.fetchesClosed && cache.builds.all (·.phase.isResolved) then
    some { cache with fetchesClosed := true }
  else none

def abandonFetches? (cache : PageCache) : Option PageCache :=
  if cache.buildsClosed && !cache.fetchesClosed then some { cache with fetchesClosed := true }
  else none

def move? (cache : PageCache) : Step → Option (PageCache × List Notice)
  | .request request =>
    let (next, report) := cache.request request
    some (next, report.notices)
  | .register build => (cache.register? build).map (·, [])
  | .startBuild => cache.startBuild?.map (·, [])
  | .askFetch build => (cache.askFetch? build).map (·, [])
  | .startFetch => cache.startFetch?.map (·, [])
  | .finishFetch build resource result => cache.finishFetch? build resource result
  | .finishBuild build => cache.finishBuild? build
  | .inform build => cache.inform? build
  | .evict identity => some ((cache.evict identity).1, [])
  | .clear => some (cache.clear, [])
  | .close => some (cache.close, [])
  | .closeFetches => cache.closeFetches?.map (·, [])
  | .abandonFetches => cache.abandonFetches?.map (·, [])

end Flipbook.PageCache
