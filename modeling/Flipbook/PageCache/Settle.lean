import Flipbook.PageCache.Step

/-!
Running a cache until no move is left but those of its callers.
-/

namespace Flipbook

/-- What loads give, by their sources. A load that is held back gives nothing yet. -/
structure Loaders where
  metadata : Value → Option (Report Value)
  image : Value → Option (Report Value)

def Loaders.load (loaders : Loaders) : Resource → Value → Option (Report Value)
  | .metadata => loaders.metadata
  | .image => loaders.image

namespace PageCache

def fetchEnd? (loaders : Loaders) (build : Nat) (known : Build) (resource : Resource) :
    Option Step :=
  if (known.fetch resource).isRunning then
    (loaders.load resource (known.request.source resource)).map (.finishFetch build resource)
  else none

def fetchEnds (cache : PageCache) (loaders : Loaders) : List Step :=
  cache.builds.zipIdx.flatMap fun (known, build) =>
    (fetchEnd? loaders build known .metadata).toList ++
      (fetchEnd? loaders build known .image).toList

def candidates (cache : PageCache) (loaders : Loaders) : List Step :=
  .startBuild :: (List.range cache.builds.length).map .askFetch ++ .startFetch ::
    cache.fetchEnds loaders ++
    ((List.range cache.builds.length).flatMap fun build => [.finishBuild build, .inform build]) ++
    [.closeFetches]

variable [Limits]

def advance? (cache : PageCache) (loaders : Loaders) : Option (PageCache × List Notice) :=
  (cache.candidates loaders).findSome? cache.move?

def settleFrom : (fuel : Nat) → PageCache → Loaders → List Notice → PageCache × List Notice
  | 0, cache, _, notices => (cache, notices)
  | fuel + 1, cache, loaders, notices =>
    match cache.advance? loaders with
    | some (next, more) => settleFrom fuel next loaders (notices ++ more)
    | none => (cache, notices)

/-- The cache when nothing moves by itself any longer, with all that was reported on the way. A
build makes at most nine moves: it starts and ends, its two loads are asked for, start and end, and
its end is told. -/
def settle (cache : PageCache) (loaders : Loaders) : PageCache × List Notice :=
  settleFrom (9 * cache.builds.length + 1) cache loaders []

def submit (cache : PageCache) (request : PageRequest) : PageCache × Report Nat :=
  let (next, report) := cache.request request
  match report.outcome with
  | .ok build => ((next.register? build).getD next, report)
  | .error _ => (next, report)

end PageCache

end Flipbook
