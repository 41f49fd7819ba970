import Mathlib.Data.Fintype.Pi
import MeshLight.Proofs.Cipher.Inverse

/-!
# The cipher permutes the blocks

Under a key no two blocks are enciphered alike, and there are finitely many of them, so every block
is the cipher of another one. That deciphering also undoes enciphering from the other side follows
from this; no layer has to be looked at again. Adding a block permutes the blocks too.
-/

namespace MeshLight.Cipher

namespace Block

/-- Sums may be taken in any order. -/
theorem exclusiveOr_comm (left right : Block) :
    left.exclusiveOr right = right.exclusiveOr left := by
  apply ext_get
  intro position
  rw [get_exclusiveOr, get_exclusiveOr, UInt8.xor_comm]

/-- Blocks are the same if they are with the same block added. -/
@[simp] theorem exclusiveOr_left_inj {left right added : Block} :
    left.exclusiveOr added = right.exclusiveOr added ↔ left = right := by
  constructor
  · intro same
    rw [← exclusiveOr_exclusiveOr left added, same, exclusiveOr_exclusiveOr]
  · rintro rfl
    rfl

/-- So they are if they are added to the same block. -/
@[simp] theorem exclusiveOr_right_inj {left right added : Block} :
    added.exclusiveOr left = added.exclusiveOr right ↔ left = right := by
  rw [exclusiveOr_comm added, exclusiveOr_comm added, exclusiveOr_left_inj]

end Block

/-- There are finitely many blocks. -/
theorem finite_block : Finite Block := by
  apply Finite.of_injective fun (block : Block) position => (block.get position).toFin
  intro left right same
  apply Block.ext_get
  intro position
  exact UInt8.toFin_inj.mp (congrFun same position)

/-- No two blocks are enciphered alike. -/
theorem encrypt_injective (key : Block) : Function.Injective (encrypt key) :=
  Function.LeftInverse.injective (decrypt_encrypt key)

/-- Blocks are the same if they are enciphered alike. -/
@[simp] theorem encrypt_inj {key left right : Block} :
    encrypt key left = encrypt key right ↔ left = right :=
  (encrypt_injective key).eq_iff

/-- Every block is the cipher of a block. -/
theorem encrypt_surjective (key : Block) : Function.Surjective (encrypt key) := by
  have finite : Finite Block := finite_block
  exact Finite.surjective_of_injective (encrypt_injective key)

/-- A block that was deciphered is enciphered again under the same key. -/
@[simp] theorem encrypt_decrypt (key block : Block) : encrypt key (decrypt key block) = block := by
  obtain ⟨plain, rfl⟩ := encrypt_surjective key block
  rw [decrypt_encrypt]

/-- Under every key the cipher permutes the blocks, and deciphering undoes it from both sides. -/
theorem cipher_permutes (key : Block) :
    Function.Bijective (encrypt key) ∧
      ∀ block, decrypt key (encrypt key block) = block ∧
        encrypt key (decrypt key block) = block := by
  constructor
  · exact ⟨encrypt_injective key, encrypt_surjective key⟩
  · intro block
    exact ⟨decrypt_encrypt key block, encrypt_decrypt key block⟩

/-- The known answer for a key and a block of zeros, read backwards. -/
example : encrypt (Vector.replicate 16 0) (Vector.replicate 16 0) =
    #v[0x2e, 0x2b, 0x34, 0xca, 0x59, 0xfa, 0x4c, 0x88, 0x3b, 0x2c, 0x8a, 0xef, 0xd4, 0x4b, 0xe9,
      0x66] := by decide +kernel

end MeshLight.Cipher
