import MeshLight.Frame.Notification
import MeshLight.Proofs.Bytes
import MeshLight.Proofs.Frame.Protection

/-!
# Notifications are read back

Under a key and an address every content of a notification has exactly one frame, and that one is
read back. The nonce is made from the first bytes of the frame when it is read and from the header
when it is written; those are the same bytes. A status fits into a notification and is read back
from its payload.
-/

namespace MeshLight.Frame

namespace Notification

variable (content : Notification)

/-- The five bytes in front of the check. -/
def header : Bytes :=
  content.sequence.toList ++ Bytes.ofWord content.source

/-- The bytes of a notification under a key, bound to an address. -/
def bytes (key : SessionKey) (address : Address) : Bytes :=
  let nonce := notificationNonce address content.header
  content.header ++ mark key.block nonce content.payload ++ cover key.block nonce content.payload

/-- There are five bytes in front of the check. -/
@[simp] theorem length_header : content.header.length = 5 := by
  simp [header, Bytes.ofWord]

/-- A notification has seven bytes more than its payload. -/
@[simp] theorem length_bytes (key : SessionKey) (address : Address) :
    (content.bytes key address).length = 7 + content.payload.length := by
  simp [bytes]
  omega

/-- What is read from the first five bytes has them as its header. -/
theorem header_eq {frame : Bytes} (enough : 5 ≤ frame.length) (payload : Bytes) :
    header { sequence := Bytes.fitted 3 frame
             source := Bytes.toWord (frame.getD 3 0) (frame.getD 4 0)
             payload } = frame.take 5 := by
  match frame, enough with
  | first :: second :: third :: fourth :: fifth :: rest, _ =>
    have number : (Bytes.fitted 3 (first :: second :: third :: fourth :: fifth :: rest)).toList =
        [first, second, third] := Bytes.fitted_toList 3 _ (by simp)
    simp [header, number]

/-- What is read from the beginning of a notification. -/
theorem header_read (rest : Bytes) :
    Bytes.fitted 3 (content.header ++ rest) = content.sequence ∧
      Bytes.toWord ((content.header ++ rest).getD 3 0) ((content.header ++ rest).getD 4 0) =
        content.source := by
  constructor
  · rw [header, List.append_assoc, Bytes.fitted_append]
  · have low : (content.header ++ rest).getD 3 0 = content.source.toUInt8 := by
      simp [header, Bytes.ofWord]
    have high : (content.header ++ rest).getD 4 0 = (content.source >>> 8).toUInt8 := by
      simp [header, Bytes.ofWord, List.getElem?_append_right]
    rw [low, high, Bytes.toWord_ofWord]

end Notification

/-- The nonce of a notification depends on its first five bytes only. -/
theorem notificationNonce_take (address : Address) (frame : Bytes) :
    notificationNonce address (frame.take 5) = notificationNonce address frame := by
  rw [notificationNonce, notificationNonce, List.take_take, Nat.min_self]

/-- The bytes of a notification are read back, and no other bytes are read as it. -/
theorem decodeNotification_ok_iff {key : SessionKey} {address : Address} {frame : Bytes}
    {content : Notification} :
    decodeNotification key address frame = .ok content ↔ frame = content.bytes key address := by
  constructor
  · intro decoded
    unfold decodeNotification at decoded
    split at decoded
    · cases decoded
    rename_i seven
    dsimp only at decoded
    split at decoded
    · cases decoded
    rename_i carried
    cases decoded
    unfold Notification.bytes
    dsimp only
    rw [Notification.header_eq (by omega), notificationNonce_take]
    exact eq_protected key.block _ 5 rfl (Decidable.not_not.mp carried)
  · rintro rfl
    have long : ¬(content.bytes key address).length < 7 := by
      rw [Notification.length_bytes]
      omega
    have split : content.bytes key address = content.header ++
        (mark key.block (notificationNonce address content.header) content.payload ++
          cover key.block (notificationNonce address content.header) content.payload) := by
      rw [← List.append_assoc]
      rfl
    have nonce : notificationNonce address (content.bytes key address) =
        notificationNonce address content.header := by
      rw [← notificationNonce_take, split, List.take_left' content.length_header]
    obtain ⟨carried, covered⟩ := drop_protected key.block
      (notificationNonce address content.header) content.header content.payload
    rw [Notification.length_header] at carried covered
    have uncovered : cover key.block (notificationNonce address content.header)
        ((content.bytes key address).drop 7) = content.payload := by
      rw [Notification.bytes, covered, cover_cover]
    have compared : ((content.bytes key address).drop 5).take 2 =
        mark key.block (notificationNonce address content.header) content.payload := carried
    obtain ⟨number, source⟩ := content.header_read
      (mark key.block (notificationNonce address content.header) content.payload ++
        cover key.block (notificationNonce address content.header) content.payload)
    rw [← split] at number source
    simp only [decodeNotification, long, nonce, uncovered, compared, number, source, ne_eq,
      not_true_eq_false, if_false]

/-- Behind its header and its check a notification that is read carries its payload, of which the
first sixteen bytes are covered with the cipher of the counter block zero. -/
theorem decodeNotification_covered {key : SessionKey} {address : Address} {frame : Bytes}
    {content : Notification} (decoded : decodeNotification key address frame = .ok content) :
    (frame.drop 7).take 16 = Bytes.exclusiveOr (content.payload.take 16)
      (Cipher.encrypt key.block (counterBlock (notificationNonce address frame) 0)).toList := by
  have covered : cover key.block (notificationNonce address frame) content.payload =
      frame.drop 7 := by
    unfold decodeNotification at decoded
    split at decoded
    · cases decoded
    dsimp only at decoded
    split at decoded
    · cases decoded
    cases decoded
    exact cover_cover key.block (notificationNonce address frame) (frame.drop 7)
  rw [← covered, cover_first]

/-- The notification of a payload that fits. -/
theorem encodeNotification_ok (key : SessionKey) (address : Address) (sequence : Sequence)
    (source : UInt16) {payload : Bytes} (fits : payload.length ≤ notificationPayloadLimit) :
    encodeNotification key address sequence source payload =
      .ok (Notification.bytes { sequence, source, payload } key address) :=
  if_pos fits

/-- Decoding and encoding of notifications undo each other.

Payloads of more than thirteen bytes are refused, and from all others everything is read back. Fewer
than seven bytes are never accepted, no two frames are accepted with the same content, and an
accepted frame of at most twenty bytes is the encoding of its content. Frames beyond that are
accepted too, though no light makes them. -/
theorem notification_canonical (key : SessionKey) (address : Address) :
    (∀ sequence source payload,
      (encodeNotification key address sequence source payload =
          .error (.dataTooLong payload.length 13) ↔ 13 < payload.length) ∧
        (payload.length ≤ 13 → ∃ frame : Bytes,
          encodeNotification key address sequence source payload = .ok frame ∧
            decodeNotification key address frame = .ok { sequence, source, payload })) ∧
      ∀ frame content, decodeNotification key address frame = .ok content →
        7 ≤ frame.length ∧
          (∀ other, decodeNotification key address other = .ok content → other = frame) ∧
          (frame.length ≤ 20 →
            encodeNotification key address content.sequence content.source content.payload =
              .ok frame) := by
  constructor
  · intro sequence source payload
    by_cases fits : payload.length ≤ notificationPayloadLimit
    · have encoded := encodeNotification_ok key address sequence source fits
      constructor
      · rw [encoded]
        exact ⟨nofun, fun long => absurd fits (Nat.not_le_of_lt long)⟩
      · intro _
        exact ⟨_, encoded, decodeNotification_ok_iff.mpr rfl⟩
    · have refused : encodeNotification key address sequence source payload =
          .error (.dataTooLong payload.length 13) := if_neg fits
      exact ⟨⟨fun _ => Nat.lt_of_not_le fits, fun _ => refused⟩, fun short => absurd short fits⟩
  · intro frame content decoded
    have frameIs : frame = content.bytes key address := decodeNotification_ok_iff.mp decoded
    have length : frame.length = 7 + content.payload.length := by
      rw [frameIs, Notification.length_bytes]
    refine ⟨by omega, ?_, ?_⟩
    · intro other accepted
      rw [frameIs]
      exact decodeNotification_ok_iff.mp accepted
    · intro short
      have fits : content.payload.length ≤ notificationPayloadLimit := by
        change content.payload.length ≤ 13
        omega
      rw [frameIs]
      exact encodeNotification_ok key address content.sequence content.source fits

end MeshLight.Frame

namespace MeshLight.Light.Status

/-- A status is read back from its payload, whatever follows it. -/
theorem decode_encode (status : Status) (behind : Bytes) :
    decode (status.encode ++ behind) = .ok status := by
  obtain ⟨meshId, on, _, _, _, _, _, _⟩ := status
  have vendorIs : Bytes.toWord vendor.toUInt8 (vendor >>> 8).toUInt8 = vendor :=
    Bytes.toWord_ofWord vendor
  cases on <;> simp [encode, Bytes.ofWord, decode, vendorIs]

/-- A status fits into a notification. -/
theorem encode_fits (status : Status) :
    status.encode.length ≤ Frame.notificationPayloadLimit := by
  simp [encode, Bytes.ofWord, Frame.notificationPayloadLimit]

end MeshLight.Light.Status
