import MeshLight.Bytes
import MeshLight.Random.ChaCha

/-!
# Random sources

A source is an endless sequence of words with a position up to which they are used. Drawing bytes
takes whole words, low byte first, and throws away what is left of the last one. Any sequence will
do; the seeded ones are ChaCha streams.
-/

namespace MeshLight.Random

/-- An endless sequence of random words, with the number of those that are used. -/
structure Source where
  word : Nat → UInt32
  used : Nat := 0

namespace Source

/-- The source of a seed. -/
def seeded (seed : UInt64) : Source :=
  let key := keyOfSeed seed
  { word := wordAt key }

/-- The bytes of a word, low byte first. -/
def wordBytes (word : UInt32) : Bytes :=
  [word.toUInt8, (word >>> 8).toUInt8, (word >>> 16).toUInt8, (word >>> 24).toUInt8]

/-- Draws a number of bytes. -/
def draw (size : Nat) (source : Source) : Vector UInt8 size × Source :=
  let words := (size + 3) / 4
  let bytes := (List.range words).flatMap fun index => wordBytes (source.word (source.used + index))
  (Bytes.fitted size bytes, { source with used := source.used + words })

end Source

end MeshLight.Random
