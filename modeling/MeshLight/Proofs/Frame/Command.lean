import MeshLight.Frame.Command
import MeshLight.Proofs.Bytes
import MeshLight.Proofs.Frame.Protection

/-!
# Command frames are read back

Under a key and an address every content of a command frame has exactly one frame, and that one is
read back. Encoding gives the frame of the data with the zeros behind them, so an accepted frame of
our vendor is the one that encoding gives. The data of a light command fit and are recognised among
the zeros behind them.
-/

namespace MeshLight.Frame

namespace CommandFrame

variable (content : CommandFrame)

/-- The plain payload of a frame. -/
def payload : Bytes :=
  Bytes.ofWord content.destination ++ content.opcode :: Bytes.ofWord content.vendor
    ++ content.data.toList

/-- The bytes of a frame under a key, bound to an address. -/
def bytes (key : SessionKey) (address : Address) : Bytes :=
  let nonce := commandNonce address content.sequence
  content.sequence.toList ++ mark key.block nonce content.payload
    ++ cover key.block nonce content.payload

/-- A payload has fifteen bytes. -/
@[simp] theorem length_payload : content.payload.length = 15 := by
  simp [payload, Bytes.ofWord]

/-- A frame has twenty bytes. -/
@[simp] theorem length_bytes (key : SessionKey) (address : Address) :
    (content.bytes key address).length = 20 := by
  simp [bytes]

/-- What is read from fifteen bytes has them as its payload. -/
theorem payload_eq {plain : Bytes} (fifteen : plain.length = 15) (sequence : Sequence) :
    payload { sequence
              destination := Bytes.toWord (plain.getD 0 0) (plain.getD 1 0)
              opcode := plain.getD 2 0
              vendor := Bytes.toWord (plain.getD 3 0) (plain.getD 4 0)
              data := Bytes.fitted 10 (plain.drop 5) } = plain := by
  match plain, fifteen with
  | first :: second :: third :: fourth :: fifth :: rest, fifteen =>
    have ten : rest.length = 10 := by
      simp only [List.length_cons] at fifteen
      omega
    have data : (Bytes.fitted 10 rest).toList = rest := by
      rw [Bytes.fitted_toList 10 rest (Nat.le_of_eq ten.symm),
        List.take_of_length_le (Nat.le_of_eq ten)]
    simp [payload, data]

end CommandFrame

/-- The bytes of a frame are read back, and no other bytes are read as it. The check bytes come from
the payload and the payload from the cover, so nothing in the bytes is left open. -/
theorem decodeCommand_ok_iff {key : SessionKey} {address : Address} {frame : Bytes}
    {content : CommandFrame} :
    decodeCommand key address frame = .ok content ↔ frame = content.bytes key address := by
  constructor
  · intro decoded
    unfold decodeCommand at decoded
    split at decoded
    · cases decoded
    rename_i twenty
    have twenty : frame.length = 20 := Decidable.not_not.mp twenty
    dsimp only at decoded
    split at decoded
    · cases decoded
    rename_i carried
    cases decoded
    have header : (Bytes.fitted 3 frame).toList = frame.take 3 :=
      Bytes.fitted_toList 3 frame (by omega)
    unfold CommandFrame.bytes
    dsimp only
    rw [CommandFrame.payload_eq (by simp [twenty]), header]
    exact eq_protected key.block _ 3 rfl (Decidable.not_not.mp carried)
  · rintro rfl
    have header : Bytes.fitted 3 (content.bytes key address) = content.sequence := by
      rw [CommandFrame.bytes, List.append_assoc, Bytes.fitted_append]
    obtain ⟨carried, covered⟩ := drop_protected key.block
      (commandNonce address content.sequence) content.sequence.toList content.payload
    rw [Vector.length_toList] at carried covered
    have uncovered : cover key.block (commandNonce address content.sequence)
        ((content.bytes key address).drop 5) = content.payload := by
      rw [CommandFrame.bytes, covered, cover_cover]
    have compared : ((content.bytes key address).drop 3).take 2 =
        mark key.block (commandNonce address content.sequence) content.payload := carried
    simp only [decodeCommand, CommandFrame.length_bytes, header, uncovered, compared, ne_eq,
      not_true_eq_false, if_false]
    simp [CommandFrame.payload, Bytes.ofWord]

/-- The frame of data that fit is that of the data with the zeros behind them. -/
theorem encodeCommand_ok (key : SessionKey) (address : Address) (sequence : Sequence)
    (destination : UInt16) (opcode : UInt8) {data : Bytes}
    (fits : data.length ≤ commandDataLimit) :
    encodeCommand key address sequence destination opcode data =
      .ok (CommandFrame.bytes { sequence, destination, opcode, vendor := Light.vendor,
                                data := Bytes.fitted 10 data } key address) :=
  if_pos fits

/-- A light command is recognised by its opcode and its data, whatever follows them. -/
theorem decode_data (command : Light.Command) (behind : Bytes) :
    Light.Command.decode command.opcode (command.data ++ behind) = .ok command := by
  cases command with
  | power on => cases on <;> rfl
  | whiteTemperature value => rfl
  | whiteBrightness value => rfl
  | color red green blue => rfl
  | colorBrightness value => rfl

/-- The frame of a light command is read back. -/
theorem decodeCommand_encodeLightCommand (key : SessionKey) (address : Address)
    (sequence : Sequence) (destination : UInt16) (command : Light.Command) :
    ∃ frame content, encodeLightCommand key address sequence destination command = .ok frame ∧
      decodeCommand key address frame = .ok content ∧ content.sequence = sequence ∧
      content.destination = destination ∧ content.light = .ok command := by
  have fits : command.data.length ≤ commandDataLimit := by
    cases command <;> simp [Light.Command.data, commandDataLimit]
  refine ⟨_, _, encodeCommand_ok key address sequence destination command.opcode fits,
    decodeCommand_ok_iff.mpr rfl, rfl, rfl, ?_⟩
  rw [CommandFrame.light, Bytes.fitted_toList_filled 10 _ fits]
  exact decode_data command _

/-- Decoding and encoding of command frames undo each other.

Data of more than ten bytes are refused and all others give twenty bytes, from which everything is
read back, the data with zeros up to ten bytes. No two frames are accepted with the same content,
and an accepted frame of the vendor 0x0160 is the encoding of its content. -/
theorem commandFrame_canonical (key : SessionKey) (address : Address) :
    (∀ sequence destination opcode data,
      (encodeCommand key address sequence destination opcode data =
          .error (.dataTooLong data.length 10) ↔ 10 < data.length) ∧
        (data.length ≤ 10 → ∃ (frame : Bytes) (filled : Vector UInt8 10),
          encodeCommand key address sequence destination opcode data = .ok frame ∧
            frame.length = 20 ∧
            filled.toList = data ++ List.replicate (10 - data.length) 0 ∧
            decodeCommand key address frame =
              .ok { sequence, destination, opcode, vendor := 0x0160, data := filled })) ∧
      ∀ frame content, decodeCommand key address frame = .ok content →
        frame.length = 20 ∧
          (∀ other, decodeCommand key address other = .ok content → other = frame) ∧
          (content.vendor = 0x0160 →
            encodeCommand key address content.sequence content.destination content.opcode
              content.data.toList = .ok frame) := by
  constructor
  · intro sequence destination opcode data
    by_cases fits : data.length ≤ commandDataLimit
    · have encoded := encodeCommand_ok key address sequence destination opcode fits
      constructor
      · rw [encoded]
        exact ⟨nofun, fun long => absurd fits (Nat.not_le_of_lt long)⟩
      · intro _
        exact ⟨_, Bytes.fitted 10 data, encoded, CommandFrame.length_bytes _ key address,
          Bytes.fitted_toList_filled 10 data fits, decodeCommand_ok_iff.mpr rfl⟩
    · have refused : encodeCommand key address sequence destination opcode data =
          .error (.dataTooLong data.length 10) := if_neg fits
      exact ⟨⟨fun _ => Nat.lt_of_not_le fits, fun _ => refused⟩, fun short => absurd short fits⟩
  · intro frame content decoded
    have frameIs : frame = content.bytes key address := decodeCommand_ok_iff.mp decoded
    refine ⟨?_, ?_, ?_⟩
    · rw [frameIs, CommandFrame.length_bytes]
    · intro other accepted
      rw [frameIs]
      exact decodeCommand_ok_iff.mp accepted
    · intro vendor
      obtain ⟨sequence, destination, opcode, _, data⟩ := content
      cases vendor
      rw [frameIs, encodeCommand_ok key address _ _ _ (Nat.le_of_eq data.length_toList),
        Bytes.fitted_self]
      rfl

end MeshLight.Frame
