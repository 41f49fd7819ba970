import MeshLight.Cipher.Reversed

/-!
# Frame protection

An encrypted frame carries a check over its plain payload and the payload under a keystream. Both
start from the eight-byte nonce of the frame. The check chains the cipher over the payload,
beginning with a block of nonce and length; the keystream is the cipher over a counter that stands
before the nonce. The two starting blocks place the nonce one byte apart.
-/

namespace MeshLight.Frame

/-- The value that sets one frame apart from every other under the same key. -/
abbrev Nonce := Vector UInt8 8

open Cipher (Block encrypt)

/-- The first block of the check: the nonce, the length modulo 256, zeros. -/
def checkSeed (nonce : Nonce) (length : Nat) : Block :=
  Bytes.fitted 16 (nonce.toList ++ [UInt8.ofNat length])

/-- Adds the payload to the running check, sixteen bytes at a time. A short last piece is added to
the front of the block only. -/
def checkFrom (key : Block) (check : Block) (payload : Bytes) : Block :=
  match payload with
  | [] => check
  | first :: rest =>
    checkFrom key (encrypt key (check.exclusiveOr (Bytes.fitted 16 (first :: rest.take 15))))
      (rest.drop 15)
termination_by payload.length
decreasing_by simp only [List.length_drop, List.length_cons]; omega

/-- The check over a payload. Frames carry its first two bytes. -/
def check (key : Block) (nonce : Nonce) (payload : Bytes) : Block :=
  checkFrom key (encrypt key (checkSeed nonce payload.length)) payload

/-- The block whose cipher is a piece of the keystream: counter, nonce, zeros. -/
def counterBlock (nonce : Nonce) (counter : UInt8) : Block :=
  Bytes.fitted 16 (counter :: nonce.toList)

/-- Covers the data from the block numbered `counter` on; the counter returns to zero after 255. -/
def coverFrom (key : Block) (nonce : Nonce) (counter : UInt8) (data : Bytes) : Bytes :=
  match data with
  | [] => []
  | first :: rest =>
    Bytes.exclusiveOr (first :: rest.take 15) (encrypt key (counterBlock nonce counter)).toList
      ++ coverFrom key nonce (counter + 1) (rest.drop 15)
termination_by data.length
decreasing_by simp only [List.length_drop, List.length_cons]; omega

/-- Covers or uncovers data with the keystream of a nonce. -/
def cover (key : Block) (nonce : Nonce) (data : Bytes) : Bytes :=
  coverFrom key nonce 0 data

end MeshLight.Frame
