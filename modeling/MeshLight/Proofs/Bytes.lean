import MeshLight.Bytes

/-!
# Fitting bytes

A list that is long enough is fitted by cutting it off, and a vector is fitted back from its list. A
number is read back from its two bytes, and a text has as many bytes as its size says.
-/

namespace MeshLight.Bytes

/-- Fitting a list that is long enough cuts it off. -/
theorem fitted_toList (size : Nat) (bytes : Bytes) (enough : size ≤ bytes.length) :
    (fitted size bytes).toList = bytes.take size := by
  apply List.ext_getElem
  · simp [enough]
  · intro index inside _
    have short : index < bytes.length := by
      simp only [Vector.length_toList] at inside
      omega
    simp [fitted, List.getD_eq_getElem?_getD, List.getElem?_eq_getElem short]

/-- Fitting a list that is short enough fills it up with zeros. -/
theorem fitted_toList_filled (size : Nat) (bytes : Bytes) (short : bytes.length ≤ size) :
    (fitted size bytes).toList = bytes ++ List.replicate (size - bytes.length) 0 := by
  apply List.ext_getElem
  · simp [short]
  · intro index inside _
    rw [Vector.length_toList] at inside
    by_cases early : index < bytes.length
    · simp [fitted, List.getD_eq_getElem?_getD, early]
    · simp [fitted, List.getD_eq_getElem?_getD, List.getElem_append_right (Nat.le_of_not_lt early),
        List.getElem?_eq_none (Nat.le_of_not_lt early)]

/-- Zeros at the end read like the end. -/
theorem getD_zeros (bytes : Bytes) (zeros position : Nat) :
    (bytes ++ List.replicate zeros 0).getD position 0 = bytes.getD position 0 := by
  by_cases early : position < bytes.length
  · simp only [List.getD_eq_getElem?_getD, List.getElem?_append_left early]
  · have late := Nat.le_of_not_lt early
    simp only [List.getD_eq_getElem?_getD, List.getElem?_append_right late,
      List.getElem?_eq_none late, List.getElem?_replicate]
    split <;> rfl

/-- Zeros at the end are those that fitting would fill up with. -/
theorem fitted_zeros (size : Nat) (bytes : Bytes) (zeros : Nat) :
    fitted size (bytes ++ List.replicate zeros 0) = fitted size bytes := by
  simp only [fitted, getD_zeros]

/-- What fits is told apart from what is as long. -/
theorem fitted_inj {size : Nat} {left right : Bytes} (length : left.length = right.length)
    (fits : left.length ≤ size) : fitted size left = fitted size right ↔ left = right := by
  constructor
  · intro same
    have lists := congrArg Vector.toList same
    rw [fitted_toList_filled size left fits, fitted_toList_filled size right (length ▸ fits)]
      at lists
    exact (List.append_inj lists length).1
  · exact congrArg (fitted size)

/-- A vector is fitted back from a list that begins with it. -/
@[simp] theorem fitted_append {size : Nat} (vector : Vector UInt8 size) (rest : Bytes) :
    fitted size (vector.toList ++ rest) = vector := by
  apply Vector.toList_inj.mp
  rw [fitted_toList size _ (by simp), List.take_left' (by simp)]

/-- A vector is fitted back from its own list. -/
@[simp] theorem fitted_self {size : Nat} (vector : Vector UInt8 size) :
    fitted size vector.toList = vector := by
  simpa using fitted_append vector []

/-- The number of two bytes. -/
theorem toNat_toWord (low high : UInt8) :
    (toWord low high).toNat = low.toNat + 256 * high.toNat := by
  have bound := low.toNat_lt
  have split := Nat.two_pow_add_eq_or_of_lt (i := 8) bound high.toNat
  have fits : high.toNat <<< 8 % 65536 = 2 ^ 8 * high.toNat := by
    have := high.toNat_lt
    rw [Nat.shiftLeft_eq]
    omega
  simp only [toWord, UInt16.toNat_or, UInt8.toNat_toUInt16, UInt16.toNat_shiftLeft]
  rw [Nat.or_comm]
  simp [fits, ← split]
  omega

/-- A number is read back from its bytes. -/
@[simp] theorem toWord_ofWord (word : UInt16) :
    toWord word.toUInt8 (word >>> 8).toUInt8 = word := by
  apply UInt16.toNat_inj.mp
  have bound := word.toNat_lt
  rw [toNat_toWord]
  simp [Nat.shiftRight_eq_div_pow]
  omega

/-- The bytes of a number are those that it was read from. -/
@[simp] theorem ofWord_toWord (low high : UInt8) : ofWord (toWord low high) = [low, high] := by
  have lowBound := low.toNat_lt
  have highBound := high.toNat_lt
  have first : (toWord low high).toUInt8 = low := by
    apply UInt8.toNat_inj.mp
    rw [UInt16.toNat_toUInt8, toNat_toWord]
    omega
  have second : (toWord low high >>> 8).toUInt8 = high := by
    apply UInt8.toNat_inj.mp
    rw [UInt16.toNat_toUInt8, UInt16.toNat_shiftRight, toNat_toWord]
    simp [Nat.shiftRight_eq_div_pow]
    omega
  rw [ofWord, first, second]

/-- The bytes of a text are as many as its size says. -/
theorem length_ofText (text : String) : (Bytes.ofText text).length = text.utf8ByteSize :=
  rfl

end MeshLight.Bytes
