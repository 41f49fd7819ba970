/-!
# The ChaCha stream

Seeded randomness is the ChaCha stream with eight rounds. A number of 64 bits is stretched into the
key by a small generator of its own; the stream is then a sequence of words that can be read at any
position, sixteen to a block.
-/

namespace MeshLight.Random

/-- The sixteen words of a ChaCha block. -/
abbrev Matrix := Vector UInt32 16

/-- A word turned to the left. -/
def turnedLeft (word : UInt32) (bits : UInt32) : UInt32 :=
  word <<< bits ||| word >>> (32 - bits)

/-- One quarter round on four places of the matrix. -/
def quarterRound (matrix : Matrix) (a b c d : Fin 16) : Matrix :=
  let half (matrix : Matrix) (far near : UInt32) : Matrix :=
    let first := matrix.get a + matrix.get b
    let fourth := turnedLeft (matrix.get d ^^^ first) far
    let third := matrix.get c + fourth
    let second := turnedLeft (matrix.get b ^^^ third) near
    (((matrix.set a first).set b second).set c third).set d fourth
  half (half matrix 16 12) 8 7

/-- A round down the columns and one along the diagonals. -/
def doubleRound (matrix : Matrix) : Matrix :=
  let columns :=
    quarterRound (quarterRound (quarterRound (quarterRound matrix 0 4 8 12) 1 5 9 13) 2 6 10 14)
      3 7 11 15
  quarterRound (quarterRound (quarterRound (quarterRound columns 0 5 10 15) 1 6 11 12) 2 7 8 13)
    3 4 9 14

/-- The block of a key with a given number: constants, key, number, zeros, stirred by eight rounds
and added to itself as it was. -/
def block (key : Vector UInt32 8) (number : UInt64) : Matrix :=
  let start : Matrix :=
    (#v[0x61707865, 0x3320646e, 0x79622d32, 0x6b206574] : Vector UInt32 4) ++ key
      ++ (#v[number.toUInt32, (number >>> 32).toUInt32, 0, 0] : Vector UInt32 4)
  Vector.zipWith (· + ·) (doubleRound (doubleRound (doubleRound (doubleRound start)))) start

/-- The word at a position of the stream. -/
def wordAt (key : Vector UInt32 8) (position : Nat) : UInt32 :=
  (block key (UInt64.ofNat (position / 16))).get ⟨position % 16, Nat.mod_lt _ (by decide)⟩

/-- One step of the generator that stretches a seed. -/
def stretchStep (state : UInt64) : UInt64 :=
  state * 6364136223846793005 + 11634580027462260723

/-- The word that the generator shows in a state. -/
def stretchWord (state : UInt64) : UInt32 :=
  let mixed := (((state >>> 18) ^^^ state) >>> 27).toUInt32
  let turn := (state >>> 59).toUInt32
  mixed >>> turn ||| mixed <<< (32 - turn)

/-- The key that a seed is stretched into. -/
def keyOfSeed (seed : UInt64) : Vector UInt32 8 :=
  Vector.ofFn fun index => stretchWord (Nat.repeat stretchStep (index.val + 1) seed)

end MeshLight.Random
