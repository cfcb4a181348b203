import Flipbook.Metadata
import Flipbook.Page.Definitions

/-!
The build of one page from its two resources. What becomes of a build depends on the request and on
what the two loads gave, and not on the time at which they ended. A load ends with a value or with
an ordinary failure. What stops a worker as such, an interrupt or an exit, is left out.
-/

namespace Flipbook

/-- What tells pages apart: a text, or nothing, which is written as an empty list. -/
inductive PageIdentity
  | named (name : String)
  | nameless
deriving DecidableEq

namespace PageIdentity

instance : Coe String PageIdentity := ⟨named⟩

def name : PageIdentity → String
  | named name => name
  | nameless => ""

def toValue : PageIdentity → Value
  | named name => .text name
  | nameless => .list []

def text (identity : PageIdentity) : String := identity.toValue.toText

end PageIdentity

structure PageRequest where
  identity : PageIdentity
  metadata : Value
  image : Value := .none
  definitions : Page.Definitions := []

inductive Resource
  | metadata
  | image
deriving DecidableEq

def PageRequest.source (request : PageRequest) : Resource → Value
  | .metadata => request.metadata
  | .image =>
    match request.image with
    | .none => request.identity.toValue
    | image => image

inductive Fetch
  | absent
  | queued
  | running
  | finished (outcome : Except Fault Value)

def Fetch.isRunning : Fetch → Bool
  | .running => true
  | _ => false

inductive Phase
  | queued
  | running
  | resolved (outcome : Except Fault Page)

namespace Phase

def isQueued : Phase → Bool
  | queued => true
  | _ => false

def isRunning : Phase → Bool
  | running => true
  | _ => false

def isResolved : Phase → Bool
  | resolved _ => true
  | _ => false

def outcome? : Phase → Option (Except Fault Page)
  | resolved outcome => some outcome
  | _ => none

end Phase

inductive Watch
  | unregistered
  | registered
  | informed
deriving DecidableEq

structure Load where
  build : Nat
  resource : Resource
  source : Value

structure Build where
  request : PageRequest
  phase : Phase := .queued
  metadata : Fetch := .absent
  image : Fetch := .absent
  watch : Watch := .unregistered

namespace Build

def fetch (build : Build) : Resource → Fetch
  | .metadata => build.metadata
  | .image => build.image

def setFetch (build : Build) (resource : Resource) (fetch : Fetch) : Build :=
  match resource with
  | .metadata => { build with metadata := fetch }
  | .image => { build with image := fetch }

def unasked? (build : Build) : Option Resource :=
  match build.metadata, build.image with
  | .absent, _ => some .metadata
  | _, .absent => some .image
  | _, _ => none

/-- Both resources, as soon as the build need not wait any longer. It waits only after it asked for
both. Metadata that failed to load decides at once, and before the image. -/
def joined? (build : Build) : Option (Except Fault (Value × Value)) :=
  match build.metadata, build.image with
  | _, .absent => none
  | .finished (.error fault), _ => some (.error fault)
  | .finished (.ok metadata), .finished image => some (image.map fun image => (metadata, image))
  | _, _ => none

def logger : String := "sprite_atlas.atlas.cache.PageCache"

variable [Limits]

def framesOf (resources : Except Fault (Value × Value)) : Except Fault (List Frame × Value) := do
  let (metadata, texture) ← resources
  let frames ← Metadata.framesOfEntries (← Metadata.entriesOf metadata)
  pure (frames, texture)

def readyRecord (identity : String) (page : Page) : Report Unit :=
  Report.log logger .info
    ("Atlas page ready: " ++ identity ++ " (" ++ toString page.count ++ " frames, " ++
      toString page.groups.length ++ " animations)")

def assemble (request : PageRequest) (order : Groups.Order) (frames : List Frame)
    (texture : Value) : Report Page :=
  match Page.ofFrames frames order texture with
  | .error fault => .fail fault
  | .ok page =>
    let (defined, report) := page.define request.definitions
    (report.bind fun _ => readyRecord request.identity.text defined).bind fun _ => .ok defined

def conclude (request : PageRequest) (order : Groups.Order)
    (resources : Except Fault (Value × Value)) : Report Page :=
  match framesOf resources with
  | .ok (frames, texture) => assemble request order frames texture
  | .error fault =>
    (Report.log logger .error
      ("Failed to load atlas " ++ request.identity.text ++ ": " ++ fault.message)).bind fun _ =>
      .fail (.pageBuild request.identity.text fault)

end Build

end Flipbook
