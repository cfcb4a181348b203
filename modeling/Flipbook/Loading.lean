import Flipbook.Image
import Flipbook.Json
import Flipbook.Report
import Flipbook.Url

/-!
Loading of metadata and images from paths, addresses and octets. What is decoded already is taken
as it is.
-/

namespace Flipbook.Loading

def pathOf : Value → Except Fault Path
  | .text text => .ok (Path.ofText text)
  | .path path => .ok path
  | value => .error (.notAPath value.kind)

def fetch (workspace : Workspace) (url : String) : Report (List UInt8) := do
  Report.log "sprite_atlas.atlas.loaders" .debug ("Fetching " ++ url)
  .ofExcept (Url.fetch workspace url)

def readOctets (workspace : Workspace) (source : Value) : Report (List UInt8) :=
  match source with
  | .octets octets => .ok octets
  | .text text =>
    if Url.hasScheme text then fetch workspace text
    else
      let path := Path.ofText text
      .ofExcept (workspace.readFile path (.resourceNotFound path))
  | source => .ofExcept do
    let path ← pathOf source
    workspace.readFile path (.resourceNotFound path)

def metadata (workspace : Workspace) (source : Value) : Report Value :=
  match source with
  | .map entries => .ok (.map entries)
  | source => do
    let octets ← readOctets workspace source
    match Json.decode? octets with
    | some (.map entries) => pure (.map entries)
    | some value => .fail (.notAnObject value.kind)
    | none => .fail .malformedJson

def imageOfOctets (octets : List UInt8) (path : Option Path) : Except Fault Value :=
  match Image.size? octets with
  | some (width, height) => .ok (.image width height)
  | none => .error (.unidentifiedImage path)

def imageOfPath (workspace : Workspace) (path : Path) : Except Fault Value := do
  let octets ← workspace.readFile path (.imageNotFound path)
  imageOfOctets octets (some path)

def image (workspace : Workspace) (source : Value) : Report Value :=
  match source with
  | .image width height => .ok (.image width height)
  | .octets octets => .ofExcept (imageOfOctets octets none)
  | source =>
    if Url.isUrl source then do
      let octets ← readOctets workspace source
      .ofExcept (imageOfOctets octets none)
    else .ofExcept do
      let path ← pathOf source
      imageOfPath workspace path

end Flipbook.Loading
