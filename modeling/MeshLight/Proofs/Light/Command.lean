import MeshLight.Proofs.Frame.Command

/-!
# Light commands are read back

A light recognises a command by its opcode and by the beginning of the block behind it. Several
blocks stand for the same command: what follows the data is ignored, and any byte but zero switches
a light on. The data of the command are the one of these blocks that is written, so reading and
writing again settles at once.
-/

namespace MeshLight

namespace Light.Command

/-- A block begins with the data of a command, where any byte but zero switches the light on. -/
def CarriedBy (block : Bytes) : Command → Prop
  | .power on => ∃ value, [value] <+: block ∧ decide (value ≠ 0) = on
  | command => command.data <+: block

/-- A command of one byte needs one byte. -/
theorem firstByte_map_ok_iff {what : String} {block : Bytes} {build : UInt8 → Command}
    {command : Command} :
    (firstByte what block).map build = .ok command ↔
      ∃ value, [value] <+: block ∧ build value = command := by
  cases block with
  | nil => simp [firstByte, Except.map]
  | cons first rest => simp [firstByte, Except.map]

/-- A command is read exactly from its own opcode and from the blocks that carry it. -/
theorem decode_ok_iff {opcode : UInt8} {block : Bytes} {command : Command} :
    decode opcode block = .ok command ↔ opcode = command.opcode ∧ command.CarriedBy block := by
  constructor
  · intro decoded
    unfold decode at decoded
    split at decoded
    · rename_i isPower
      obtain ⟨value, begins, rfl⟩ := firstByte_map_ok_iff.mp decoded
      exact ⟨isPower, value, begins, rfl⟩
    split at decoded
    · rename_i isTemperature
      obtain ⟨value, begins, rfl⟩ := firstByte_map_ok_iff.mp decoded
      exact ⟨isTemperature, begins⟩
    split at decoded
    · rename_i isBrightness
      obtain ⟨value, begins, rfl⟩ := firstByte_map_ok_iff.mp decoded
      exact ⟨isBrightness, begins⟩
    split at decoded
    · rename_i isColorBrightness
      obtain ⟨value, begins, rfl⟩ := firstByte_map_ok_iff.mp decoded
      exact ⟨isColorBrightness, begins⟩
    split at decoded
    · rename_i isColor
      split at decoded
      · rename_i mode red green blue rest
        split at decoded
        · rename_i isMode
          cases decoded
          exact ⟨isColor, rest, by rw [isMode]; rfl⟩
        · cases decoded
      · cases decoded
    · cases decoded
  · rintro ⟨rfl, carried⟩
    cases command with
    | power on =>
      obtain ⟨value, begins, rfl⟩ := carried
      exact firstByte_map_ok_iff.mpr ⟨value, begins, rfl⟩
    | whiteTemperature value => exact firstByte_map_ok_iff.mpr ⟨value, carried, rfl⟩
    | whiteBrightness value => exact firstByte_map_ok_iff.mpr ⟨value, carried, rfl⟩
    | color red green blue =>
      obtain ⟨rest, rfl⟩ := carried
      rfl
    | colorBrightness value => exact firstByte_map_ok_iff.mpr ⟨value, carried, rfl⟩

end Light.Command

namespace Frame

/-- Light commands survive the frame and settle when they are read.

Every command has a frame under every key, and from the frame the same command comes back, with the
number and the destination. It is read from its own opcode and data, whatever follows them. In turn,
whatever block a command was read from, the opcode was its own, and its own data stand for it. -/
theorem lightCommand_settled :
    (∀ (key : SessionKey) (address : Address) (sequence : Sequence) (destination : UInt16)
        (command : Light.Command), ∃ frame content,
      encodeLightCommand key address sequence destination command = .ok frame ∧
        decodeCommand key address frame = .ok content ∧ content.light = .ok command ∧
        content.sequence = sequence ∧ content.destination = destination) ∧
    (∀ (command : Light.Command) (behind : Bytes),
      Light.Command.decode command.opcode (command.data ++ behind) = .ok command) ∧
    ∀ (opcode : UInt8) (block : Bytes) (command : Light.Command),
      Light.Command.decode opcode block = .ok command →
        command.opcode = opcode ∧
          Light.Command.decode command.opcode command.data = .ok command := by
  refine ⟨?_, decode_data, ?_⟩
  · intro key address sequence destination command
    obtain ⟨frame, content, encoded, decoded, numbered, meant, light⟩ :=
      decodeCommand_encodeLightCommand key address sequence destination command
    exact ⟨frame, content, encoded, decoded, light, numbered, meant⟩
  · intro opcode block command decoded
    obtain ⟨own, -⟩ := Light.Command.decode_ok_iff.mp decoded
    have again := decode_data command []
    rw [List.append_nil] at again
    exact ⟨own.symm, again⟩

end Frame

end MeshLight
