import MeshLight.Cipher.Reversed

/-!
# Deciphering undoes enciphering

Each layer is undone by its own counterpart, so the rounds are undone from the last one on. For the
column layer the reason is that all products are additive: the product of the two matrices is worked
out on single bytes, one for each distance between two rows of a column.
-/

namespace MeshLight.Cipher

/-! ## Bytes -/

/-- What holds of every index of a table holds of every byte. -/
theorem of_indices {claim : UInt8 → Prop} (all : ∀ index : Fin 256, claim (UInt8.ofFin index)) :
    ∀ byte, claim byte :=
  fun byte => all byte.toFin

/-- What doubling folds back in for the bit that fell out. -/
def folded (bit : Bool) : UInt8 :=
  if bit then 0x1b else 0

/-- Folding back is additive. -/
theorem folded_xor (left right : Bool) : folded (left ^^ right) = folded left ^^^ folded right := by
  cases left <;> cases right <;> rfl

/-- Doubling shifts and folds the highest bit back in. -/
theorem double_eq (byte : UInt8) : double byte = (byte <<< 1) ^^^ folded byte.toBitVec.msb := by
  have high : byte < 128 ↔ byte.toBitVec.msb = false := by
    rw [UInt8.lt_iff_toBitVec_lt, BitVec.msb_eq_false_iff_two_mul_lt, BitVec.lt_def]
    have bound := byte.toBitVec.isLt
    simp
    omega
  unfold double folded
  by_cases low : byte < 128
  · simp [low, high.mp low]
  · have set : byte.toBitVec.msb = true := by simpa using mt high.mpr low
    simp [low, set]

/-- A map of bytes that keeps sums. -/
def Additive (map : UInt8 → UInt8) : Prop :=
  ∀ left right, map (left ^^^ right) = map left ^^^ map right

namespace Additive

variable {first second : UInt8 → UInt8}

/-- Bytes themselves. -/
theorem self : Additive id :=
  fun _ _ => rfl

/-- Doubling. -/
theorem doubled (additive : Additive first) : Additive fun byte => double (first byte) := by
  intro left right
  have shifted (left right : UInt8) : (left ^^^ right) <<< 1 = (left <<< 1) ^^^ (right <<< 1) := by
    apply UInt8.toBitVec_inj.mp
    simp [BitVec.shiftLeft_xor_distrib]
  simp only [additive left right, double_eq, shifted, UInt8.toBitVec_xor, BitVec.msb_xor,
    folded_xor]
  ac_rfl

/-- Sums. -/
theorem plus (one : Additive first) (other : Additive second) :
    Additive fun byte => first byte ^^^ second byte := by
  intro left right
  simp only [one left right, other left right]
  ac_rfl

/-- Doubling once, twice and three times, which all products are made of. -/
theorem powers : Additive double ∧ Additive (fun byte => double (double byte)) ∧
    Additive fun byte => double (double (double byte)) :=
  ⟨self.doubled, self.doubled.doubled, self.doubled.doubled.doubled⟩

end Additive

/-- Every product of the inverse matrix is additive. -/
theorem products_additive :
    Additive times14 ∧ Additive times11 ∧ Additive times13 ∧ Additive times9 := by
  obtain ⟨once, twice, thrice⟩ := Additive.powers
  exact ⟨(thrice.plus twice).plus once, (thrice.plus once).plus .self,
    (thrice.plus twice).plus .self, thrice.plus .self⟩

/-- The product of the two matrices on a column: on the diagonal each byte comes back, and beside it
everything cancels. -/
theorem matrices_cancel (first second third fourth : UInt8) :
    times14 (double first ^^^ triple second ^^^ third ^^^ fourth) ^^^
        times11 (double second ^^^ triple third ^^^ fourth ^^^ first) ^^^
        times13 (double third ^^^ triple fourth ^^^ first ^^^ second) ^^^
        times9 (double fourth ^^^ triple first ^^^ second ^^^ third) = first := by
  have diagonal : ∀ byte, times14 (double byte) ^^^ times11 byte ^^^ times13 byte ^^^
      times9 (triple byte) = byte := of_indices (by decide +kernel)
  have one : ∀ byte, times14 (triple byte) ^^^ times11 (double byte) ^^^ times13 byte ^^^
      times9 byte = 0 := of_indices (by decide +kernel)
  have two : ∀ byte, times14 byte ^^^ times11 (triple byte) ^^^ times13 (double byte) ^^^
      times9 byte = 0 := of_indices (by decide +kernel)
  have three : ∀ byte, times14 byte ^^^ times11 byte ^^^ times13 (triple byte) ^^^
      times9 (double byte) = 0 := of_indices (by decide +kernel)
  obtain ⟨additive14, additive11, additive13, additive9⟩ := products_additive
  simp only [additive14 _ _, additive11 _ _, additive13 _ _, additive9 _ _]
  calc
    _ = (times14 (double first) ^^^ times11 first ^^^ times13 first ^^^ times9 (triple first)) ^^^
          (times14 (triple second) ^^^ times11 (double second) ^^^ times13 second ^^^
            times9 second) ^^^
          (times14 third ^^^ times11 (triple third) ^^^ times13 (double third) ^^^ times9 third) ^^^
          (times14 fourth ^^^ times11 fourth ^^^ times13 (triple fourth) ^^^
            times9 (double fourth)) := by ac_rfl
    _ = first := by rw [diagonal, one, two, three]; simp

/-- The second table lists the inverse of the first one. -/
theorem tables_inverse :
    substitutionTable.toList.map (fun byte => restorationTable.toList.getD byte.toNat 0) =
      (List.range 256).map UInt8.ofNat := by decide +kernel

/-- A replaced byte is restored. -/
theorem restore_substitute (byte : UInt8) : restore (substitute byte) = byte := by
  have first : byte.toNat < 256 := byte.toNat_lt
  have second : substitutionTable[byte.toNat].toNat < 256 := substitutionTable[byte.toNat].toNat_lt
  have entry := congrArg (fun table => table[byte.toNat]?) tables_inverse
  have restored : restorationTable[substitutionTable[byte.toNat].toNat] = byte := by
    simpa [first, second] using entry
  exact restored

/-! ## Layers -/

namespace Block

variable (block : Block)

/-- Two blocks agree if they agree at every position. -/
theorem ext_get {left right : Block} (same : ∀ position, left.get position = right.get position) :
    left = right :=
  Vector.ext fun index inside => same ⟨index, inside⟩

/-- The byte of a block that is given position by position. -/
@[simp] theorem get_ofFn (byte : Fin 16 → UInt8) (position : Fin 16) :
    (Vector.ofFn byte : Block).get position = byte position :=
  Vector.getElem_ofFn position.isLt

/-- The bytes of a sum. -/
@[simp] theorem get_exclusiveOr (key : Block) (position : Fin 16) :
    (block.exclusiveOr key).get position = block.get position ^^^ key.get position :=
  Vector.getElem_zipWith position.isLt

/-- Adding twice changes nothing. -/
@[simp] theorem exclusiveOr_exclusiveOr (key : Block) :
    (block.exclusiveOr key).exclusiveOr key = block := by
  apply ext_get
  intro position
  rw [get_exclusiveOr, get_exclusiveOr, UInt8.xor_assoc, UInt8.xor_self, UInt8.xor_zero]

/-- Replaced bytes are restored. -/
@[simp] theorem restored_substituted : block.substituted.restored = block := by
  have undone : restore ∘ substitute = id := funext restore_substitute
  simp [substituted, restored, undone]

/-- Rows that were turned to the left are turned back. -/
@[simp] theorem rowsReturned_rowsShifted : block.rowsShifted.rowsReturned = block := by
  apply ext_get
  intro position
  simp only [rowsReturned, rowsShifted, get_ofFn, rightOf]
  congr 1
  apply Fin.ext
  simp only
  omega

/-- Two ways down a block lead to one byte if they end in the same column and row. -/
theorem below_congr {first second : Fin 16} {steps more : Nat}
    (column : first.val / 4 = second.val / 4)
    (row : (first.val + steps) % 4 = (second.val + more) % 4) :
    block.below first steps = block.below second more := by
  unfold below
  congr 2
  rw [column, row]

/-- Going down a column of a block that is given row by row from where one stands. -/
theorem columnsMixed_below (position : Fin 16) (steps : Nat) :
    block.columnsMixed.below position steps =
      double (block.below position steps) ^^^ triple (block.below position (steps + 1))
        ^^^ block.below position (steps + 2) ^^^ block.below position (steps + 3) := by
  have further (more : Nat) :
      block.below ⟨4 * (position.val / 4) + (position.val + steps) % 4, by omega⟩ more =
        block.below position (steps + more) :=
    block.below_congr (by simp only; omega) (by simp only; omega)
  have here : block.columnsMixed.below position steps =
      block.columnsMixed.get ⟨4 * (position.val / 4) + (position.val + steps) % 4, by omega⟩ := rfl
  rw [here, columnsMixed, get_ofFn]
  simp only [further, Nat.add_zero]

/-- Columns are four bytes high. -/
theorem below_add_four (position : Fin 16) (steps : Nat) :
    block.below position (steps + 4) = block.below position steps :=
  block.below_congr rfl (by omega)

/-- One stands where one begins. -/
theorem below_zero (position : Fin 16) : block.below position 0 = block.get position := by
  unfold below
  congr 1
  apply Fin.ext
  simp only
  omega

/-- Columns that were mixed are separated. -/
@[simp] theorem columnsSeparated_columnsMixed : block.columnsMixed.columnsSeparated = block := by
  apply ext_get
  intro position
  have wrapped (steps : Nat) := block.below_add_four position steps
  simp only [columnsSeparated, get_ofFn, columnsMixed_below, Nat.reduceAdd, wrapped 0, wrapped 1,
    wrapped 2, ← below_zero block position]
  exact matrices_cancel _ _ _ _

end Block

/-! ## Rounds -/

/-- The rounds are undone, the last one first. -/
theorem decipherRounds_encipherRounds (state : Block) (keys : List Block) :
    decipherRounds (encipherRounds state keys) keys = state := by
  induction keys generalizing state with
  | nil => rfl
  | cons key later inductionHypothesis =>
    cases later with
    | nil => simp [encipherRounds, decipherRounds]
    | cons next rest => simp [encipherRounds, decipherRounds, inductionHypothesis]

/-- A block that was enciphered is deciphered under the same key. -/
theorem decipher_encipher (key block : Block) : decipher key (encipher key block) = block := by
  rw [decipher, encipher, decipherRounds_encipherRounds, Block.exclusiveOr_exclusiveOr]

/-- So it is with the reversed cipher. -/
@[simp] theorem decrypt_encrypt (key block : Block) : decrypt key (encrypt key block) = block := by
  simp [decrypt, encrypt, decipher_encipher]

end MeshLight.Cipher
