/-!
Texts in any script written with ASCII letters and digits. The ASCII characters come first, in
order. Then come the places of all others, by rising code, each as its distance from the one
before. Distances are written in base 36, the lowest digit first, and a digit below the threshold
of its place ends the number.
-/

namespace Flipbook.Text.Punycode

def base : Nat := 36

def digit (value : Nat) : Char :=
  if value < 26 then Char.ofNat (97 + value) else Char.ofNat (22 + value)

def threshold (bias place : Nat) : Nat := max 1 (min 26 (place - bias))

theorem threshold_pos (bias place : Nat) : 1 ≤ threshold bias place := by
  unfold threshold
  omega

def number (bias place value : Nat) : List Char :=
  let least := threshold bias place
  if value < least then [digit value]
  else
    digit (least + (value - least) % (base - least)) ::
      number bias (place + base) ((value - least) / (base - least))
termination_by value
decreasing_by
  have positive := threshold_pos bias place
  have smaller : (value - threshold bias place) / (base - threshold bias place) ≤
      value - threshold bias place := Nat.div_le_self _ _
  omega

def scale (distance steps : Nat) : Nat × Nat :=
  if 455 < distance then scale (distance / 35) (steps + base) else (distance, steps)
termination_by distance
decreasing_by exact Nat.div_lt_self (by omega) (by omega)

def adapt (distance count : Nat) (isFirst : Bool) : Nat :=
  let damped := if isFirst then distance / 700 else distance / 2
  let (rest, steps) := scale (damped + damped / count) 0
  steps + base * rest / (rest + 38)

/-- What is written, the distance from the last place written, the bias, and how many characters
have their places. -/
structure Progress where
  written : List Char
  distance : Nat
  bias : Nat
  count : Nat

def pass (plainCount code : Nat) (progress : Progress) (c : Char) : Progress :=
  if c.toNat < code then { progress with distance := progress.distance + 1 }
  else if c.toNat = code then
    { written := progress.written ++ number progress.bias base progress.distance
      distance := 0
      bias := adapt progress.distance (progress.count + 1) (progress.count == plainCount)
      count := progress.count + 1 }
  else progress

def places (text : List Char) (plainCount : Nat) : List Nat → Nat → Progress → Progress
  | [], _, progress => progress
  | code :: codes, next, progress =>
    let passed := text.foldl (pass plainCount code)
      { progress with distance := progress.distance + (code - next) * (progress.count + 1) }
    places text plainCount codes (code + 1) { passed with distance := passed.distance + 1 }

def encode (text : List Char) : List Char :=
  let plain := text.filter (·.toNat < 128)
  let codes := ((text.filter (128 ≤ ·.toNat)).map Char.toNat).eraseDups.mergeSort (· ≤ ·)
  let start := if plain.isEmpty then [] else plain ++ ['-']
  (places text plain.length codes 128
    { written := start, distance := 0, bias := 72, count := plain.length }).written

end Flipbook.Text.Punycode
