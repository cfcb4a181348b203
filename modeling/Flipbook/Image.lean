/-!
Recognition of PNG images by their first octets, which hold the size.
-/

namespace Flipbook.Image

def signature : List UInt8 := [0x89, 0x50, 0x4e, 0x47, 0x0d, 0x0a, 0x1a, 0x0a]

def headerChunk : List UInt8 := [0, 0, 0, 13, 0x49, 0x48, 0x44, 0x52]

def bigEndian (octets : List UInt8) : Nat :=
  octets.foldl (fun value octet => value * 256 + octet.toNat) 0

def octetsOf (number : Nat) : List UInt8 :=
  [number / 16777216, number / 65536, number / 256, number].map fun part => UInt8.ofNat (part % 256)

def header (width height : Nat) : List UInt8 :=
  signature ++ headerChunk ++ octetsOf width ++ octetsOf height ++ [8, 2, 0, 0, 0]

def size? (octets : List UInt8) : Option (Nat × Nat) :=
  let start := signature ++ headerChunk
  if start.isPrefixOf octets then
    let numbers := octets.drop start.length
    let width := bigEndian (numbers.take 4)
    let height := bigEndian ((numbers.drop 4).take 4)
    if 8 ≤ numbers.length ∧ 0 < width ∧ 0 < height then some (width, height) else none
  else none

end Flipbook.Image
