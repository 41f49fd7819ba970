import MeshLight.Bytes
import MeshLight.Cipher.Field
import MeshLight.Cipher.Substitution

/-!
# The block cipher

AES with a key of 128 bits, layer by layer as FIPS 197 gives it. A block is a vector of sixteen
bytes whose columns lie one after the other: byte `4 * column + row`. Each layer comes with the
layer that undoes it, and deciphering runs the undoing layers in reverse order under the same round
keys.
-/

namespace MeshLight.Cipher

/-- Sixteen bytes: a key, or the state of the cipher. -/
abbrev Block := Vector UInt8 16

namespace Block

/-- Byte by byte exclusive or. -/
def exclusiveOr (left right : Block) : Block :=
  Vector.zipWith (· ^^^ ·) left right

/-- The byte `steps` rows below a position in the same column, wrapping at the bottom. -/
def below (block : Block) (position : Fin 16) (steps : Nat) : UInt8 :=
  block.get ⟨4 * (position.val / 4) + (position.val + steps) % 4, by omega⟩

/-- The byte `columns` columns to the right of a position in the same row, wrapping at the end. -/
def rightOf (block : Block) (position : Fin 16) (columns : Nat) : UInt8 :=
  block.get ⟨(position.val + 4 * columns) % 16, by omega⟩

/-- Replaces every byte. -/
def substituted (block : Block) : Block :=
  block.map substitute

/-- Undoes `substituted`. -/
def restored (block : Block) : Block :=
  block.map restore

/-- Turns each row to the left by its own number. -/
def rowsShifted (block : Block) : Block :=
  Vector.ofFn fun position => block.rightOf position (position.val % 4)

/-- Turns each row to the right by its own number. -/
def rowsReturned (block : Block) : Block :=
  Vector.ofFn fun position => block.rightOf position (4 - position.val % 4)

/-- Multiplies each column by the matrix whose first row is 2, 3, 1, 1. -/
def columnsMixed (block : Block) : Block :=
  Vector.ofFn fun position =>
    double (block.below position 0) ^^^ triple (block.below position 1)
      ^^^ block.below position 2 ^^^ block.below position 3

/-- Multiplies each column by the inverse matrix, whose first row is 14, 11, 13, 9. -/
def columnsSeparated (block : Block) : Block :=
  Vector.ofFn fun position =>
    times14 (block.below position 0) ^^^ times11 (block.below position 1)
      ^^^ times13 (block.below position 2) ^^^ times9 (block.below position 3)

end Block

/-- The first byte added into each round's key schedule. -/
def roundConstants : List UInt8 :=
  [0x01, 0x02, 0x04, 0x08, 0x10, 0x20, 0x40, 0x80, 0x1b, 0x36]

/-- The round key that follows `key`: the last column is rotated, replaced and added with the
round's constant to the first one, and every further column is the sum of itself and the new one
before it. -/
def nextRoundKey (constant : UInt8) (key : Block) : Block :=
  let byte (column row : Nat) : UInt8 := key.get ⟨(4 * column + row) % 16, by omega⟩
  let first (row : Nat) : UInt8 :=
    byte 0 row ^^^ substitute (byte 3 ((row + 1) % 4)) ^^^ (if row = 0 then constant else 0)
  Vector.ofFn fun position =>
    let row := position.val % 4
    match position.val / 4 with
    | 0 => first row
    | 1 => first row ^^^ byte 1 row
    | 2 => first row ^^^ byte 1 row ^^^ byte 2 row
    | _ => first row ^^^ byte 1 row ^^^ byte 2 row ^^^ byte 3 row

/-- The round keys after `key`, one for each constant. -/
def roundKeysAfter (key : Block) : List UInt8 → List Block
  | [] => []
  | constant :: constants =>
    let next := nextRoundKey constant key
    next :: roundKeysAfter next constants

/-- The ten round keys that follow the cipher key itself. -/
def roundKeys (key : Block) : List Block :=
  roundKeysAfter key roundConstants

/-- All rounds but the last replace, shift, mix and add a key; the last one does not mix. -/
def encipherRounds (state : Block) : List Block → Block
  | [] => state
  | [last] => state.substituted.rowsShifted.exclusiveOr last
  | key :: later =>
    encipherRounds (state.substituted.rowsShifted.columnsMixed.exclusiveOr key) later

/-- Undoes `encipherRounds`, last round first. -/
def decipherRounds (state : Block) : List Block → Block
  | [] => state
  | [last] => (state.exclusiveOr last).rowsReturned.restored
  | key :: later =>
    ((decipherRounds state later).exclusiveOr key).columnsSeparated.rowsReturned.restored

/-- Enciphers one block. -/
def encipher (key block : Block) : Block :=
  encipherRounds (block.exclusiveOr key) (roundKeys key)

/-- Undoes `encipher`. -/
def decipher (key block : Block) : Block :=
  (decipherRounds block (roundKeys key)).exclusiveOr key

end MeshLight.Cipher
