import Flipbook.PageCache.Build
import Flipbook.RollingHash

/-!
Pages under the hashes of their identities, each built at most once while it is kept. Builds run in
a pool of workers, and their loads in a second pool with two workers for each build.
-/

namespace Flipbook

/-- `builds` holds every build ever accepted, numbered from zero, and `pages` the numbers of those
that are kept. Loads begin in the order of `fetchQueue`. -/
structure PageCache where
  workers : Nat
  evictsFailed : Bool := false
  order : Groups.Order := .byName
  builds : List Build := []
  pages : List (Int × Nat) := []
  fetchQueue : List (Nat × Resource) := []
  loads : List Load := []
  buildsClosed : Bool := false
  fetchesClosed : Bool := false

namespace PageCache

def create (workers : Int) (evictsFailed : Bool) (order : Groups.Order) :
    Except Fault PageCache :=
  if workers ≤ 0 then .error .noWorkers
  else .ok { workers := workers.toNat, evictsFailed, order }

/-- The key of an identity. Identities with one hash share a page. -/
def keyFor (identity : PageIdentity) : Int := RollingHash.hash identity.name

def size (cache : PageCache) : Nat := cache.pages.length

def contains (cache : PageCache) (identity : PageIdentity) : Bool :=
  Keyed.contains cache.pages (keyFor identity)

def calls (cache : PageCache) : List (Resource × Value) :=
  cache.loads.map fun load => (load.resource, load.source)

def outcome? (cache : PageCache) (build : Nat) : Option (Except Fault Page) :=
  (cache.builds[build]?).bind (·.phase.outcome?)

def modifyBuild (cache : PageCache) (build : Nat) (change : Build → Build) : PageCache :=
  { cache with builds := cache.builds.modify build change }

def setPage (cache : PageCache) (build : Nat) (page : Page) : PageCache :=
  cache.modifyBuild build fun old =>
    match old.phase with
    | .resolved (.ok _) => { old with phase := .resolved (.ok page) }
    | _ => old

/-- The build of the page with the identity of the request: the one that is kept, or else a new
one. Nothing new is accepted once the cache is closed. -/
def request (cache : PageCache) (request : PageRequest) : PageCache × Report Nat :=
  let key := keyFor request.identity
  match Keyed.lookup? key cache.pages with
  | some build => (cache, .ok build)
  | none =>
    let announced := Report.log Build.logger .debug
      ("Building atlas page for " ++ request.identity.text ++ " (key " ++ toString key ++ ")")
    if cache.buildsClosed then (cache, announced.bind fun _ => .fail .poolClosed)
    else
      let build := cache.builds.length
      ({ cache with
          builds := cache.builds ++ [{ request }]
          pages := Keyed.set cache.pages key build },
        announced.bind fun _ => .ok build)

def evict (cache : PageCache) (identity : PageIdentity) : PageCache × Bool :=
  ({ cache with pages := Keyed.erase cache.pages (keyFor identity) }, cache.contains identity)

def clear (cache : PageCache) : PageCache := { cache with pages := [] }

def close (cache : PageCache) : PageCache := { cache with buildsClosed := true }

def register? (cache : PageCache) (build : Nat) : Option PageCache :=
  match cache.builds[build]? with
  | some known =>
    if cache.evictsFailed && known.watch = .unregistered then
      some (cache.modifyBuild build fun known => { known with watch := .registered })
    else none
  | none => none

end PageCache

end Flipbook
