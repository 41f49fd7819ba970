import MeshLight.Frame.MeshUpdate
import MeshLight.Proofs.Bytes
import MeshLight.Proofs.Cipher.Permutation

/-!
# What an update frame is

A value that fits into its field has exactly one frame, and the light reads it back with the zeros
behind it. In turn every seventeen bytes with the tag of a field are a frame: since the cipher
permutes the blocks, whatever stands behind the tag is the cipher of some value.
-/

namespace MeshLight.Frame

open Cipher (encrypt decrypt_encrypt encrypt_decrypt)

/-- The frame of a value that fits. -/
def updateFrame (key : SessionKey) (field : MeshField) (value : Bytes) : Bytes :=
  field.tag :: (encrypt key.block (Bytes.fitted 16 value)).toList

/-- A field takes what fits. -/
theorem encodeMeshUpdate_ok_iff {key : SessionKey} {field : MeshField} {value frame : Bytes} :
    encodeMeshUpdate key field value = .ok frame ↔
      value.length ≤ fieldLimit ∧ frame = updateFrame key field value := by
  unfold encodeMeshUpdate checkField updateFrame
  by_cases fits : value.length ≤ fieldLimit
  · simp [fits, Except.map, eq_comm]
  · simp [fits, Except.map]

/-- The frame of a value that fits. -/
theorem encodeMeshUpdate_ok {key : SessionKey} {field : MeshField} {value : Bytes}
    (fits : value.length ≤ fieldLimit) :
    encodeMeshUpdate key field value = .ok (updateFrame key field value) :=
  encodeMeshUpdate_ok_iff.mpr ⟨fits, rfl⟩

/-- The field of a tag is the one that has it. -/
@[simp] theorem ofTag?_tag (field : MeshField) : MeshField.ofTag? field.tag = some field := by
  cases field <;> rfl

/-- The light reads a value back with the zeros behind it. -/
theorem decodeMeshUpdate_updateFrame (key : SessionKey) (field : MeshField) (value : Bytes) :
    decodeMeshUpdate key (updateFrame key field value) = .ok (field, Bytes.fitted 16 value) := by
  have length : (updateFrame key field value).length = 17 := by simp [updateFrame]
  simp only [decodeMeshUpdate, length, ne_eq, not_true_eq_false, if_false]
  simp only [updateFrame, List.headD_cons, ofTag?_tag, List.drop_one, List.tail_cons,
    Bytes.fitted_self, decrypt_encrypt]

/-- The tag of a field is the only one that stands for it. -/
theorem tag_of_ofTag? {tag : UInt8} {field : MeshField}
    (known : MeshField.ofTag? tag = some field) :
    tag = field.tag := by
  unfold MeshField.ofTag? at known
  split at known
  · rename_i isName
    rw [isName, ← Option.some.inj known]
    rfl
  · split at known
    · rename_i isPassword
      rw [isPassword, ← Option.some.inj known]
      rfl
    · split at known
      · rename_i isLongTermKey
        rw [isLongTermKey, ← Option.some.inj known]
        rfl
      · cases known

/-- What the light reads back was the tag of the field and one enciphered block. -/
theorem decodeMeshUpdate_shape {key : SessionKey} {frame : Bytes} {field : MeshField}
    {block : Cipher.Block} (decoded : decodeMeshUpdate key frame = .ok (field, block)) :
    ∃ body, frame = field.tag :: body ∧ body.length = 16 ∧
      block = Cipher.decrypt key.block (Bytes.fitted 16 body) := by
  unfold decodeMeshUpdate at decoded
  split at decoded
  · cases decoded
  · rename_i length
    cases frame with
    | nil => simp at length
    | cons tag body =>
      dsimp only [List.headD_cons, List.drop_one, List.tail_cons] at decoded
      split at decoded
      · cases decoded
      · rename_i known
        obtain ⟨rfl, rfl⟩ := Prod.mk.inj (Except.ok.inj decoded)
        have sixteen : body.length = 16 := by simpa using length
        exact ⟨body, by rw [tag_of_ofTag? known], sixteen, rfl⟩

/-- The frame of a block is read as it, and no other bytes are. -/
theorem decodeMeshUpdate_ok_iff {key : SessionKey} {frame : Bytes} {field : MeshField}
    {block : Cipher.Block} :
    decodeMeshUpdate key frame = .ok (field, block) ↔
      frame = updateFrame key field block.toList := by
  constructor
  · intro decoded
    obtain ⟨body, rfl, sixteen, rfl⟩ := decodeMeshUpdate_shape decoded
    rw [updateFrame, Bytes.fitted_self, encrypt_decrypt,
      Bytes.fitted_toList 16 body (Nat.le_of_eq sixteen.symm),
      List.take_of_length_le (Nat.le_of_eq sixteen)]
  · rintro rfl
    rw [decodeMeshUpdate_updateFrame, Bytes.fitted_self]

/-- Three bytes stand for a field. -/
theorem exists_ofTag?_iff (tag : UInt8) :
    (∃ field, MeshField.ofTag? tag = some field) ↔ tag ∈ [(0x04 : UInt8), 0x05, 0x06] := by
  constructor
  · rintro ⟨field, known⟩
    rw [tag_of_ofTag? known]
    cases field <;> decide
  · intro known
    simp only [List.mem_cons, List.not_mem_nil, or_false] at known
    rcases known with rfl | rfl | rfl
    · exact ⟨.name, rfl⟩
    · exact ⟨.password, rfl⟩
    · exact ⟨.longTermKey, rfl⟩

/-- Nothing but the length and the tag decides whether a frame is accepted. -/
theorem exists_decodeMeshUpdate_iff (key : SessionKey) (frame : Bytes) :
    (∃ content, decodeMeshUpdate key frame = .ok content) ↔
      frame.length = 17 ∧ ∃ tag ∈ [(0x04 : UInt8), 0x05, 0x06], frame.head? = some tag := by
  constructor
  · rintro ⟨⟨field, block⟩, decoded⟩
    obtain ⟨body, rfl, sixteen, -⟩ := decodeMeshUpdate_shape decoded
    have known := (exists_ofTag?_iff field.tag).mp ⟨field, ofTag?_tag field⟩
    exact ⟨congrArg (· + 1) sixteen, field.tag, known, rfl⟩
  · rintro ⟨length, tag, known, first⟩
    obtain ⟨field, isField⟩ := (exists_ofTag?_iff tag).mpr known
    obtain ⟨body, rfl⟩ := List.head?_eq_some_iff.mp first
    refine ⟨(field, Cipher.decrypt key.block (Bytes.fitted 16 body)), ?_⟩
    simp only [decodeMeshUpdate, length, ne_eq, not_true_eq_false, if_false, List.headD_cons,
      isField, List.drop_one, List.tail_cons]

/-- Encoding and decoding of update frames are a bijection between a field with a block and the
frames that are accepted.

Values of more than sixteen bytes are refused, and every other one is read back from its frame with
zeros up to sixteen bytes. Accepted are exactly the seventeen bytes that begin with one of the three
tags, and what a frame is read as is what it is the encoding of. -/
theorem meshUpdate_bijective (key : SessionKey) :
    (∀ field value,
      (encodeMeshUpdate key field value =
          .error (.credentialTooLong field.label value.length 16) ↔ 16 < value.length) ∧
        (value.length ≤ 16 → ∃ (frame : Bytes) (filled : Cipher.Block),
          encodeMeshUpdate key field value = .ok frame ∧
            filled.toList = value ++ List.replicate (16 - value.length) 0 ∧
            decodeMeshUpdate key frame = .ok (field, filled))) ∧
      ∀ frame,
        ((∃ content, decodeMeshUpdate key frame = .ok content) ↔
          frame.length = 17 ∧ ∃ tag ∈ [(0x04 : UInt8), 0x05, 0x06], frame.head? = some tag) ∧
        ∀ field block, decodeMeshUpdate key frame = .ok (field, block) ↔
          encodeMeshUpdate key field block.toList = .ok frame := by
  constructor
  · intro field value
    constructor
    · constructor
      · intro refused
        by_contra short
        rw [encodeMeshUpdate_ok (Nat.le_of_not_lt short)] at refused
        cases refused
      · intro long
        have large : ¬value.length ≤ fieldLimit := Nat.not_le_of_lt long
        rw [encodeMeshUpdate, checkField, if_neg large]
        rfl
    · intro fits
      exact ⟨updateFrame key field value, Bytes.fitted 16 value, encodeMeshUpdate_ok fits,
        Bytes.fitted_toList_filled 16 value fits, decodeMeshUpdate_updateFrame key field value⟩
  · intro frame
    refine ⟨exists_decodeMeshUpdate_iff key frame, fun field block => ?_⟩
    have fits : block.toList.length ≤ fieldLimit := Nat.le_of_eq block.length_toList
    rw [decodeMeshUpdate_ok_iff, encodeMeshUpdate_ok_iff]
    exact ⟨fun same => ⟨fits, same⟩, And.right⟩

end MeshLight.Frame
