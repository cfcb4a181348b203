import Flipbook.PageCache.Settle
import Flipbook.Settings.Validation

/-!
A registry of atlases by their ids, each with a page cache of its own that is made on first use.
-/

namespace Flipbook

/-- `caches` holds every cache ever made, numbered from zero, and `registry` the numbers of those
that are in use. -/
structure AtlasService where
  defaultId : String := Settings.fallbackAtlasId
  workers : Int := Settings.fallbackWorkers
  evictsFailed : Bool := false
  order : Groups.Order := .byName
  timeout : Binary64 := Settings.fallbackTimeout
  caches : List PageCache := []
  registry : List (String × Nat) := []
  closed : Bool := false

namespace AtlasService

def logger : String := "sprite_atlas.atlas.service.AtlasService"

def warnAll : List String → Report Unit
  | [] => .ok ()
  | warning :: rest =>
    (Report.log logger .warning ("Configuration warning: " ++ warning)).bind fun _ => warnAll rest

variable [Limits]

def ofSettings (settings : Settings) : Report AtlasService := do
  let findings ← .ofExcept settings.validate
  warnAll findings.warnings
  if findings.isValid then
    let defaultId ← .ofExcept settings.defaultAtlasId
    let workers ← .ofExcept settings.maxWorkers
    let timeout ← .ofExcept settings.loadTimeout
    pure
      { defaultId
        workers
        evictsFailed := settings.evictFailedBuilds
        order := if settings.numericFrameOrder then .byNumber else .byName
        timeout }
  else .fail (.configuration (String.intercalate "; " findings.errors))

def effectiveId (service : AtlasService) : Option String → String
  | none | some "" => service.defaultId
  | some id => id

def ids (service : AtlasService) : List String := Keyed.keys service.registry

def atlas (service : AtlasService) (id : Option String) : AtlasService × Report Nat :=
  if service.closed then (service, .fail .serviceClosed)
  else
    let name := service.effectiveId id
    match Keyed.lookup? name service.registry with
    | some cache => (service, .ok cache)
    | none =>
      match PageCache.create service.workers service.evictsFailed service.order with
      | .error fault => (service, .fail fault)
      | .ok empty =>
        let cache := service.caches.length
        ({ service with
            caches := service.caches ++ [empty]
            registry := Keyed.set service.registry name cache },
          (Report.log logger .debug ("Created atlas '" ++ name ++ "'")).bind fun _ => .ok cache)

def requestFrom (service : AtlasService) (cache : Nat) (request : PageRequest) :
    AtlasService × Report (Nat × Nat) :=
  match service.caches[cache]? with
  | none => (service, .fail .serviceClosed)
  | some found =>
    let (next, report) := found.submit request
    ({ service with caches := service.caches.set cache next },
      report.bind fun build => .ok (cache, build))

def requestPage (service : AtlasService) (id : Option String) (request : PageRequest) :
    AtlasService × Report (Nat × Nat) :=
  let (looked, found) := service.atlas id
  match found.outcome with
  | .error fault => (looked, { notices := found.notices, outcome := .error fault })
  | .ok cache =>
    let (next, report) := looked.requestFrom cache request
    (next, { report with notices := found.notices ++ report.notices })

def forget (service : AtlasService) (id : String) : AtlasService × Option Nat :=
  ({ service with registry := Keyed.erase service.registry id },
    Keyed.lookup? id service.registry)

def closeCache (service : AtlasService) (cache : Nat) : AtlasService :=
  { service with caches := service.caches.modify cache PageCache.close }

def remove (service : AtlasService) (id : String) : AtlasService × Bool :=
  match service.forget id with
  | (next, some cache) => (next.closeCache cache, true)
  | (next, none) => (next, false)

def shut (service : AtlasService) : AtlasService × List Nat :=
  ({ service with registry := [], closed := true }, service.registry.map (·.2))

def close (service : AtlasService) : AtlasService × Report Unit :=
  let (next, caches) := service.shut
  (caches.foldl closeCache next,
    Report.log logger .debug ("Closed " ++ toString caches.length ++ " atlases"))

def settleCaches (loaders : Loaders) : List PageCache → List PageCache × List Notice
  | [] => ([], [])
  | cache :: rest =>
    let (settled, notices) := cache.settle loaders
    let (others, more) := settleCaches loaders rest
    (settled :: others, notices ++ more)

def settle (service : AtlasService) (loaders : Loaders) : AtlasService × List Notice :=
  let (caches, notices) := settleCaches loaders service.caches
  ({ service with caches }, notices)

def outcome? (service : AtlasService) (handle : Nat × Nat) : Option (Except Fault Page) :=
  (service.caches[handle.1]?).bind (·.outcome? handle.2)

inductive Patience
  | forever
  | seconds (limit : Binary64)

def defaultPatience (service : AtlasService) : Patience :=
  if service.timeout.isZero then .forever else .seconds service.timeout

def clockLimit : Int := 0x8000000000000000

def nanoseconds (limit : Binary64) : Binary64 :=
  match limit with
  | .finite negative significand shift =>
    .round negative (significand * Nat.pow 2 shift * 1000000000) Binary64.unitsPerOne
  | other => other

/-- Fails for a time that the clock does not count. At its limit the count turns negative. -/
def checkTime (limit : Binary64) : Except Fault Unit :=
  match (nanoseconds limit).compareInt clockLimit with
  | some .gt => .error .timeoutOverflow
  | some .eq => .error .timeoutTurnedNegative
  | _ => .ok ()

def isPositive (limit : Binary64) : Bool := limit.compareInt 0 = some .gt

/-- What a caller gets who waits for a page. A page that is there is given at once. Otherwise the
caller gets what becomes of it later, if the caller waits at all. -/
def await (patience : Patience) (now later : Option (Except Fault Page)) : Except Fault Page :=
  match now with
  | some outcome => outcome
  | none =>
    match patience with
    | .forever => later.getD (.error .timeout)
    | .seconds limit => do
      checkTime limit
      if isPositive limit then later.getD (.error .timeout) else .error .timeout

def awaitPage (service : AtlasService) (id : Option String) (request : PageRequest)
    (patience : Patience) (loaders : Loaders) : AtlasService × Report Page :=
  let (asked, report) := service.requestPage id request
  let (settled, notices) := asked.settle loaders
  let outcome : Except Fault Page := do
    let handle ← report.outcome
    await patience (asked.outcome? handle) (settled.outcome? handle)
  (settled, { notices := report.notices ++ notices, outcome })

end AtlasService

end Flipbook
