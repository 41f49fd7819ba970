import MeshLight.Frame.Protection

/-!
# The keystream

Covering adds a keystream to the data byte by byte, so doing it twice gives the data back. The
keystream begins with the cipher of the counter block zero.
-/

namespace MeshLight.Frame

open Cipher (Block encrypt)

variable (key : Block) (nonce : Nonce)

/-- The byte of the keystream at a position, counted from the block numbered `counter` on. -/
def padAt (counter : UInt8) (position : Nat) : UInt8 :=
  (encrypt key (counterBlock nonce (counter + UInt8.ofNat (position / 16)))).toList.getD
    (position % 16) 0

/-- The first block of a keystream is the block of its counter. -/
theorem padAt_first (counter : UInt8) {position : Nat} (first : position < 16) :
    (encrypt key (counterBlock nonce counter)).toList[position]? =
      some (padAt key nonce counter position) := by
  have start : counter + UInt8.ofNat (position / 16) = counter := by
    rw [Nat.div_eq_of_lt first]
    exact UInt8.add_zero counter
  have inside : position < (encrypt key (counterBlock nonce counter)).toList.length := by
    rw [Vector.length_toList]
    exact first
  rw [padAt, start, Nat.mod_eq_of_lt first, List.getD_eq_getElem?_getD,
    List.getElem?_eq_getElem inside]
  rfl

/-- Behind its first block a keystream is the one of the next counter. -/
theorem padAt_later (counter : UInt8) (position : Nat) :
    padAt key nonce counter (position + 16) = padAt key nonce (counter + 1) position := by
  have block : counter + UInt8.ofNat ((position + 16) / 16) =
      counter + 1 + UInt8.ofNat (position / 16) := by
    rw [Nat.add_div_right position (by decide), UInt8.ofNat_add,
      UInt8.add_comm (UInt8.ofNat (position / 16)), UInt8.add_assoc]
    rfl
  simp only [padAt, block, Nat.add_mod_right]

/-- Each byte is added to the one at its position in the keystream. -/
theorem getElem?_coverFrom (counter : UInt8) (data : Bytes) (position : Nat) :
    (coverFrom key nonce counter data)[position]? =
      data[position]?.map (· ^^^ padAt key nonce counter position) := by
  fun_induction coverFrom key nonce counter data generalizing position with
  | case1 counter => simp
  | case2 counter first rest inductionHypothesis =>
    have taken : first :: rest.take 15 = (first :: rest).take 16 := rfl
    have dropped : rest.drop 15 = (first :: rest).drop 16 := rfl
    rw [dropped] at inductionHypothesis
    rw [taken, dropped]
    generalize first :: rest = data at inductionHypothesis ⊢
    have length : (Bytes.exclusiveOr (data.take 16)
        (encrypt key (counterBlock nonce counter)).toList).length = min 16 data.length := by
      simp [Bytes.exclusiveOr]
    rw [List.getElem?_append, length]
    by_cases early : position < 16
    · by_cases inside : position < data.length
      · rw [if_pos (by omega), Bytes.exclusiveOr, List.getElem?_zipWith,
          padAt_first key nonce _ early, List.getElem?_take_of_lt early]
        cases data[position]? <;> rfl
      · rw [if_neg (by omega), List.drop_eq_nil_of_le (by omega),
          List.getElem?_eq_none (Nat.le_of_not_lt inside)]
        simp [coverFrom]
    · obtain ⟨later, rfl⟩ : ∃ later, position = later + 16 := ⟨position - 16, by omega⟩
      rw [if_neg (by omega), inductionHypothesis, padAt_later]
      by_cases long : 16 ≤ data.length
      · have place : 16 + (later + 16 - min 16 data.length) = later + 16 := by omega
        have shifted : later + 16 - min 16 data.length = later := by omega
        rw [List.getElem?_drop, place, shifted]
      · have beyond : data.length ≤ later + 16 := by omega
        have emptied : data.drop 16 = [] := List.drop_eq_nil_of_le (by omega)
        rw [emptied, List.getElem?_eq_none beyond]
        simp

/-- Covering keeps the length. -/
@[simp] theorem length_cover (data : Bytes) : (cover key nonce data).length = data.length := by
  have reach (position : Nat) :
      (cover key nonce data).length ≤ position ↔ data.length ≤ position := by
    rw [← List.getElem?_eq_none_iff, ← List.getElem?_eq_none_iff, cover, getElem?_coverFrom,
      Option.map_eq_none_iff]
  exact Nat.le_antisymm ((reach _).mpr (Nat.le_refl _)) ((reach _).mp (Nat.le_refl _))

/-- Covering twice gives the data back. -/
@[simp] theorem cover_cover (data : Bytes) : cover key nonce (cover key nonce data) = data := by
  apply List.ext_getElem?
  intro position
  simp only [cover, getElem?_coverFrom, Option.map_map]
  have twice : (fun byte => byte ^^^ padAt key nonce 0 position) ∘
      (fun byte => byte ^^^ padAt key nonce 0 position) = id := by
    funext byte
    change byte ^^^ padAt key nonce 0 position ^^^ padAt key nonce 0 position = byte
    rw [UInt8.xor_assoc, UInt8.xor_self, UInt8.xor_zero]
  rw [twice, Option.map_id]
  rfl

/-- The first sixteen bytes are covered with the cipher of the counter block zero. -/
theorem cover_first (data : Bytes) :
    (cover key nonce data).take 16 =
      Bytes.exclusiveOr (data.take 16) (encrypt key (counterBlock nonce 0)).toList := by
  apply List.ext_getElem?
  intro position
  by_cases early : position < 16
  · rw [List.getElem?_take_of_lt early, cover, getElem?_coverFrom, Bytes.exclusiveOr,
      List.getElem?_zipWith, padAt_first key nonce 0 early, List.getElem?_take_of_lt early]
    cases data[position]? <;> rfl
  · have late := Nat.le_of_not_lt early
    rw [List.getElem?_take_eq_none late, eq_comm, List.getElem?_eq_none_iff, Bytes.exclusiveOr,
      List.length_zipWith, Vector.length_toList]
    exact Nat.le_trans (Nat.min_le_right _ _) late

/-- The check bytes of a frame. -/
abbrev mark (payload : Bytes) : Bytes :=
  (check key nonce payload).toList.take 2

/-- Behind its header a protected frame has its check bytes and then the covered payload. -/
theorem drop_protected (header payload : Bytes) :
    ((header ++ mark key nonce payload ++ cover key nonce payload).drop header.length).take 2 =
        mark key nonce payload ∧
      (header ++ mark key nonce payload ++ cover key nonce payload).drop (header.length + 2) =
        cover key nonce payload := by
  have two : (mark key nonce payload).length = 2 := by simp
  refine ⟨?_, ?_⟩
  · rw [List.append_assoc, List.drop_left, List.take_left' two]
  · rw [← List.drop_drop, List.append_assoc, List.drop_left, List.drop_left' two]

/-- A frame whose check bytes are those of its own payload is the protected frame of that payload.
The payload is what uncovering gives, and covering it once more gives the bytes that came. -/
theorem eq_protected (size : Nat) {frame payload : Bytes}
    (uncovered : payload = cover key nonce (frame.drop (size + 2)))
    (carried : mark key nonce payload = (frame.drop size).take 2) :
    frame = frame.take size ++ mark key nonce payload ++ cover key nonce payload := by
  have behind : cover key nonce payload = (frame.drop size).drop 2 := by
    rw [uncovered, cover_cover, List.drop_drop]
  rw [carried, behind, List.append_assoc, List.take_append_drop, List.take_append_drop]

end MeshLight.Frame
