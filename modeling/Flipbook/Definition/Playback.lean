import Flipbook.Capacity
import Flipbook.Definition.Term
import Flipbook.IndexRange
import Flipbook.Report
import Flipbook.Text.Numeral

/-!
The sequence of frame indices that a definition plays. A range holds its start and not its stop,
and every frame of it is shown as often as the term repeats.
-/

namespace Flipbook.Definition

def Term.frames (term : Term) : List Int :=
  if term.repeats ≤ 0 then []
  else if term.isHold then List.replicate term.repeats.toNat term.start
  else (stepsToward term.start term.stop).flatMap (List.replicate term.repeats.toNat)

variable [Limits]

def Term.checkLength (term : Term) : Except Fault Unit :=
  if term.repeats ≤ 0 then .ok ()
  else do
    Capacity.check .overlongRepetition term.repeats
    if !term.isHold then
      Capacity.check .outOfMemory (term.repeats.toNat * (term.stop - term.start).natAbs)

def Term.expand (term : Term) : Except Fault (List Int) := do
  term.checkLength
  pure term.frames

def playback (terms : List Term) : List Int :=
  terms.flatMap Term.frames

def frameOutOfRange (index : Int) : Diagnostic :=
  { code := .frameOutOfRange
    message := "Attempting to access frame index " ++ toString index ++
      ", but it does not exist." }

def isOutside (count index : Int) : Bool := index < 0 || count ≤ index

/-- One report for each index outside the first `count` naturals, in playback order. An index that
no message can hold ends the reports with a failure. -/
def reportOutside (count : Int) (indices : List Int) : Report Unit :=
  let outside := indices.filter (isOutside count)
  { notices := (outside.takeWhile Text.isWritable).map fun index =>
      .diagnostic (frameOutOfRange index)
    outcome := if outside.all Text.isWritable then .ok () else .error .unwritable }

def expand (terms : List Term) (count : Option Int) : Report (List Int) :=
  (Report.ofExcept (terms.forM Term.checkLength)).bind fun _ =>
    let indices := playback terms
    match count with
    | none => .ok indices
    | some count => (reportOutside count indices).bind fun _ => .ok indices

def compile (definition : String) (count : Option Int) : Report (List Int) :=
  (Report.diagnoseAll (termDiagnostics definition)).bind fun _ => expand (terms definition) count

end Flipbook.Definition
