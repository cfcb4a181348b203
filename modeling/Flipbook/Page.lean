import Flipbook.Definition.Playback
import Flipbook.Frame.Groups

/-!
A loaded atlas image with its frames and their groups. Queries change nothing, and definitions
change the groups only.
-/

namespace Flipbook

structure Page where
  frames : List Frame
  groups : Groups
  texture : Value := .none

namespace Page

def ofFrames (frames : List Frame) (order : Groups.Order) (texture : Value) :
    Except Fault Page := do
  let groups ← Groups.ofFrames frames order
  pure { frames, groups, texture }

def count (page : Page) : Nat := page.frames.length

def frameAt? (page : Page) (index : Int) : Option Placed :=
  if index < 0 then none
  else page.frames[index.toNat]?.map fun frame => { position := index.toNat, frame }

def framesAt (page : Page) (indices : List Int) : List Placed :=
  indices.filterMap page.frameAt?

def unknownName (name : String) : Diagnostic :=
  { code := .unknownName
    message := "getFramesByName: name " ++ name ++ " does not exist in page." }

def byName (page : Page) (name : String) : Report (List Placed) :=
  match page.groups.find? name with
  | some members => .ok members
  | none => do
    Report.diagnose (unknownName name)
    pure []

def indexOutOfBounds (index : String) : Diagnostic :=
  { code := .frameOutOfRange
    message := "getFramesByIndex: index (" ++ index ++ ") is out of bounds." }

variable [Limits]

def byIndex (page : Page) (index : Int) : Report (List Placed) :=
  match page.frameAt? index with
  | some placed => .ok [placed]
  | none => do
    Report.diagnose (indexOutOfBounds (← .ofExcept (Value.int index).written))
    pure []

def rangeOutOfBounds (start stop : String) : Diagnostic :=
  { code := .frameOutOfRange
    message := "getFramesByIndices: [" ++ start ++ ", " ++ stop ++ "] is out of bounds." }

def rangeIndices (start stop : Int) : List Int :=
  if start = stop then [start] else stepsToward start stop

/-- Frames from `start` toward `stop`, the latter left out. A range with an end outside the page
is reported once, and indices outside it are skipped. -/
def byIndices (page : Page) (start stop : Int) : Report (List Placed) := do
  if Definition.isOutside page.count start || Definition.isOutside page.count stop then
    Report.diagnose
      (rangeOutOfBounds (← .ofExcept (Value.int start).written)
        (← .ofExcept (Value.int stop).written))
  .ofExcept (Capacity.check .overlongRange (stop - start).natAbs)
  pure (page.framesAt (rangeIndices start stop))

end Page

end Flipbook
