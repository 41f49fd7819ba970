import MeshLight.Proofs.Frame.Notification

/-!
# Statuses are read back

A status payload lists its fields one after the other behind a beginning of three bytes. Every field
is read back from its place but the switch, which is one bit in a whole byte: all bytes but zero
stand for a light that is on. Once this byte is left open, the payloads that are read as a status
are those that are written, with anything behind them.
-/

namespace MeshLight.Light.Status

/-- What every status payload begins with: the opcode and the vendor. -/
def beginning : Bytes :=
  [0xdc, 0x60, 0x01]

/-- The payload of a status that has some byte in the place of its switch. -/
def spelled (switch : UInt8) (status : Status) : Bytes :=
  beginning ++ Bytes.ofWord status.meshId ++
    [switch, status.whiteBrightness, status.whiteTemperature, status.red, status.green, status.blue,
      status.colorBrightness]

/-- A status is written with a one for on and a zero for off. -/
theorem encode_eq_spelled (status : Status) :
    status.encode = status.spelled (if status.on then 1 else 0) := rfl

/-- There are twelve bytes, whatever the switch. -/
@[simp] theorem length_spelled (switch : UInt8) (status : Status) :
    (status.spelled switch).length = 12 := rfl

/-- A payload is read as a status exactly if it spells the status with some switch and anything
behind it. -/
theorem decode_ok_iff {payload : Bytes} {status : Status} :
    decode payload = .ok status ↔
      ∃ switch, status.spelled switch <+: payload ∧ decide (switch ≠ 0) = status.on := by
  constructor
  · intro decoded
    unfold decode at decoded
    split at decoded
    · rename_i opcode vendorLow vendorHigh idLow idHigh switch _ _ _ _ _ _ rest
      split at decoded
      · cases decoded
      rename_i isStatus
      split at decoded
      · cases decoded
      rename_i isVendor
      cases decoded
      have opcodeIs : opcode = 0xdc := Decidable.not_not.mp isStatus
      have vendorIs : [vendorLow, vendorHigh] = [0x60, 0x01] := by
        rw [← Bytes.ofWord_toWord, Decidable.not_not.mp isVendor]
        rfl
      obtain ⟨rfl, rfl⟩ : vendorLow = 0x60 ∧ vendorHigh = 0x01 := by simpa using vendorIs
      refine ⟨switch, ⟨rest, ?_⟩, rfl⟩
      simp only [spelled, Bytes.ofWord_toWord, opcodeIs]
      rfl
    · cases decoded
  · rintro ⟨switch, ⟨rest, rfl⟩, isOn⟩
    obtain ⟨meshId, on, _, _, _, _, _, _⟩ := status
    obtain rfl : decide (switch ≠ 0) = on := isOn
    have vendorIs : Bytes.toWord 0x60 0x01 = vendor := by decide
    simp [spelled, beginning, Bytes.ofWord, decode, statusOpcode, vendorIs]

/-- What is read as a status is what begins as one and is long enough. -/
theorem exists_decode_iff (payload : Bytes) :
    (∃ status, decode payload = .ok status) ↔ 12 ≤ payload.length ∧ beginning <+: payload := by
  constructor
  · rintro ⟨status, decoded⟩
    obtain ⟨switch, ⟨rest, rfl⟩, -⟩ := decode_ok_iff.mp decoded
    constructor
    · simp
    · exact ⟨_, by rw [spelled, List.append_assoc, List.append_assoc]⟩
  · rintro ⟨enough, ⟨fields, rfl⟩⟩
    have nine : 9 ≤ fields.length := by
      simp only [beginning, List.length_append, List.length_cons, List.length_nil] at enough
      omega
    match fields, nine with
    | idLow :: idHigh :: switch :: _ :: _ :: _ :: _ :: _ :: _ :: rest, _ => exact ⟨_, rfl⟩

/-- Writing a status that was read gives the payload back, but for the switch and for what stood
behind. -/
theorem encode_of_decode {payload : Bytes} {status : Status}
    (decoded : decode payload = .ok status) :
    status.encode = (payload.take 12).set 5 (if payload[5]? = some 0 then 0 else 1) := by
  obtain ⟨switch, ⟨rest, rfl⟩, isOn⟩ := decode_ok_iff.mp decoded
  have place : (status.spelled switch ++ rest)[5]? = some switch := rfl
  rw [encode_eq_spelled, place, List.take_left' (length_spelled switch status), ← isOn]
  by_cases off : switch = 0
  · simp [off, spelled, beginning, Bytes.ofWord]
  · simp [off, spelled, beginning, Bytes.ofWord]

/-- Reading and writing of statuses.

A status is read back from its payload, whatever follows, and it fits into a notification, in which
it is brought under every key, for every address and every number. Read is what has at least twelve
bytes and begins with `dc 60 01`; writing it again gives the first twelve bytes, with the sixth of
them made zero or one. -/
theorem status_settled :
    (∀ (status : Status) (behind : Bytes), decode (status.encode ++ behind) = .ok status) ∧
    (∀ (key : SessionKey) (address : Address) (sequence : Frame.Sequence) (status : Status),
      status.encode.length ≤ Frame.notificationPayloadLimit ∧ ∃ frame notification,
        Frame.encodeNotification key address sequence status.meshId status.encode = .ok frame ∧
          Frame.decodeNotification key address frame = .ok notification ∧
          notification.sequence = sequence ∧ notification.source = status.meshId ∧
          decode notification.payload = .ok status) ∧
    ∀ payload : Bytes,
      ((∃ status, decode payload = .ok status) ↔
        12 ≤ payload.length ∧ [0xdc, 0x60, 0x01] <+: payload) ∧
      ∀ status, decode payload = .ok status →
        status.encode = (payload.take 12).set 5 (if payload[5]? = some 0 then 0 else 1) := by
  refine ⟨decode_encode, ?_, ?_⟩
  · intro key address sequence status
    have fits := status.encode_fits
    have read := decode_encode status []
    rw [List.append_nil] at read
    exact ⟨fits, _, _, Frame.encodeNotification_ok key address sequence status.meshId fits,
      Frame.decodeNotification_ok_iff.mpr rfl, rfl, rfl, read⟩
  · intro payload
    exact ⟨exists_decode_iff payload, fun status => encode_of_decode⟩

end MeshLight.Light.Status
