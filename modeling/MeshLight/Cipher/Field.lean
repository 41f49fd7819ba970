/-!
# Byte arithmetic

A byte stands for a polynomial over two elements, taken modulo x⁸ + x⁴ + x³ + x + 1. Sums are
exclusive or. The column layer of the cipher needs products with six fixed polynomials only; each is
built from doubling, which shifts and folds the bit that falls out back in.
-/

namespace MeshLight.Cipher

/-- The product with x. -/
def double (byte : UInt8) : UInt8 :=
  if byte < 128 then byte <<< 1 else (byte <<< 1) ^^^ 0x1b

/-- The product with x + 1. -/
def triple (byte : UInt8) : UInt8 :=
  double byte ^^^ byte

/-- The product with x³ + 1. -/
def times9 (byte : UInt8) : UInt8 :=
  double (double (double byte)) ^^^ byte

/-- The product with x³ + x + 1. -/
def times11 (byte : UInt8) : UInt8 :=
  double (double (double byte)) ^^^ double byte ^^^ byte

/-- The product with x³ + x² + 1. -/
def times13 (byte : UInt8) : UInt8 :=
  double (double (double byte)) ^^^ double (double byte) ^^^ byte

/-- The product with x³ + x² + x. -/
def times14 (byte : UInt8) : UInt8 :=
  double (double (double byte)) ^^^ double (double byte) ^^^ double byte

end MeshLight.Cipher
