/-!
Runs of neighbouring indices in either direction.
-/

namespace Flipbook

/-- Indices from `start` toward `stop`, with `start` and without `stop`. -/
def stepsToward (start stop : Int) : List Int :=
  (List.range (stop - start).natAbs).map fun (step : Nat) =>
    if start < stop then start + step else start - step

end Flipbook
