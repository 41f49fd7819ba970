import MeshLight.Cipher.Rounds

/-!
# The reversed cipher

The lights count bytes from the other end: key, input and output of the block cipher are read
backwards. Every derivation and every frame is built on this form, so only these two functions reach
the rest of the library.
-/

namespace MeshLight.Cipher

/-- Enciphers one block as the lights do. -/
def encrypt (key block : Block) : Block :=
  (encipher key.reverse block.reverse).reverse

/-- Undoes `encrypt`. -/
def decrypt (key block : Block) : Block :=
  (decipher key.reverse block.reverse).reverse

end MeshLight.Cipher
