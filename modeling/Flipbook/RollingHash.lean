/-!
Polynomial hash of a text, with the characters from `!` to `~` as the digits 1 to 94.
-/

namespace Flipbook.RollingHash

def base : Int := 95

def modulus : Int := 1000000009

/-- Weight of a character: 1 for `!`, and negative or zero for the space and all before it. -/
def weight (c : Char) : Int := (c.toNat : Int) - 32

def accumulate : (value power : Int) → List Char → Int
  | value, _, [] => value
  | value, power, c :: rest =>
      accumulate ((value + weight c * power) % modulus) (power * base % modulus) rest

/-- Hash of a text, added to `start`. The power of the base restarts at one. -/
def hash (text : String) (start : Int := 0) : Int :=
  accumulate start 1 text.toList

end Flipbook.RollingHash
