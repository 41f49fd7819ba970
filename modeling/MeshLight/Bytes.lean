/-!
# Bytes

Frames, fields and payloads are lists of bytes; keys, nonces and addresses are vectors of a fixed
length. This module holds the passage between the two: a list is fitted into a vector by cutting it
or filling it with zeros, and a number of two bytes is written low byte first.
-/

namespace MeshLight

/-- Bytes of any length. -/
abbrev Bytes := List UInt8

namespace Bytes

/-- The first `size` bytes, with zeros where there are none. -/
def fitted (size : Nat) (bytes : Bytes) : Vector UInt8 size :=
  Vector.ofFn fun index => bytes.getD index.val 0

/-- Byte by byte exclusive or; the shorter list decides the length. -/
def exclusiveOr (left right : Bytes) : Bytes :=
  List.zipWith (· ^^^ ·) left right

/-- The two bytes of a number, low byte first. -/
def ofWord (word : UInt16) : Bytes :=
  [word.toUInt8, (word >>> 8).toUInt8]

/-- The number whose low byte comes first. -/
def toWord (low high : UInt8) : UInt16 :=
  low.toUInt16 ||| high.toUInt16 <<< 8

/-- The bytes of a text in UTF-8. -/
def ofText (text : String) : Bytes :=
  text.toByteArray.data.toList

end Bytes

end MeshLight
