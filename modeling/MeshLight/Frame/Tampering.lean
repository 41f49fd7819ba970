import MeshLight.Bytes

/-!
# Tampering

Changes made to a frame on its way: bits are flipped at some places, the end is cut off, bytes are
added behind. They are made in this order, and a place outside the frame is passed over.
-/

namespace MeshLight.Frame

/-- What happens to a frame on its way: bits are flipped at some places, the frame is cut off at a
length, and bytes are added behind. -/
structure Tampering where
  flips : List (Nat × UInt8) := []
  cut : Option Nat := none
  added : Bytes := []
  deriving Repr, DecidableEq

/-- The frame as it arrives. -/
def Tampering.apply (tampering : Tampering) (frame : Bytes) : Bytes :=
  let flipped := tampering.flips.foldl
    (fun bytes flip => bytes.modify flip.1 (· ^^^ flip.2)) frame
  (match tampering.cut with
    | some length => flipped.take length
    | none => flipped) ++ tampering.added

end MeshLight.Frame
