import Flipbook.Binary64.Reading
import Flipbook.Settings
import Flipbook.Value.Integer
import Flipbook.Value.Number
import Flipbook.Value.Written

/-!
Settings of page caches and loaders. A setter that refuses a value reports it and keeps the store.
-/

namespace Flipbook.Settings

def logger : String := "sprite_atlas.settings.atlas"

def fallbackAtlasId : String := "defaultAtlas"

def fallbackWorkers : Int := 4

def fallbackTimeout : Binary64 := .ofInt 30

variable [Limits]

def defaultAtlasId (settings : Settings) : Except Fault String :=
  match settings.value? "atlas/default_atlas_id" with
  | some value => if value.isTruthy then value.written else .ok fallbackAtlasId
  | none => .ok fallbackAtlasId

def maxWorkers (settings : Settings) : Except Fault Int :=
  settings.readOr "atlas/max_workers" fallbackWorkers fun text =>
    (Value.integerOfText text).toOption

def evictFailedBuilds (settings : Settings) : Bool :=
  settings.switch "atlas/evict_failed_builds" false

def numericFrameOrder (settings : Settings) : Bool :=
  settings.switch "atlas/numeric_frame_order" false

def loadTimeout (settings : Settings) : Except Fault Binary64 :=
  settings.readOr "atlas/load_timeout" fallbackTimeout Binary64.read?

def refuse (settings : Settings) (source message : String) : Report Settings :=
  (Report.log source .warning message).bind fun _ => .ok settings

def setDefaultAtlasId (settings : Settings) (value : Value) : Report Settings :=
  if value.isTruthy then .ok (settings.put "atlas/default_atlas_id" value)
  else settings.refuse logger "Empty default atlas id ignored"

def setMaxWorkers (settings : Settings) (value : Value) : Report Settings :=
  match value.number? with
  | none => .fail (.incomparable ">" value.kind .int)
  | some number =>
    if number.isAbove (.whole 0) then .ok (settings.put "atlas/max_workers" value)
    else do
      let refused ← .ofExcept value.written
      let current ← .ofExcept settings.maxWorkers
      settings.refuse logger ("Invalid max workers: " ++ refused ++ ", keeping current: " ++
        toString current)

def setEvictFailedBuilds (settings : Settings) (value : Value) : Settings :=
  settings.put "atlas/evict_failed_builds" value

def setNumericFrameOrder (settings : Settings) (value : Value) : Settings :=
  settings.put "atlas/numeric_frame_order" value

def setLoadTimeout (settings : Settings) (value : Value) : Report Settings :=
  match value.number? with
  | none => .fail (.incomparable ">=" value.kind .int)
  | some number =>
    if number.isAtLeast (.whole 0) then .ok (settings.put "atlas/load_timeout" value)
    else do
      let refused ← .ofExcept value.written
      let current ← .ofExcept settings.loadTimeout
      settings.refuse logger ("Invalid load timeout: " ++ refused ++ ", keeping current: " ++
        current.text)

end Flipbook.Settings
