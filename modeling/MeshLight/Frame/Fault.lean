import MeshLight.Text.Hex

/-!
# Frame faults

Every reason for which a frame, a credential, an address or a command cannot be built or read, and
its wording. Check bytes are kept as bytes; only the wording turns them into text.
-/

namespace MeshLight.Frame

/-- Why a frame or one of its parts is refused. The length is wrong where a frame is shorter than
its layout, or not of the one length that it may have; a credential or the data is too long for its
place; and the check bytes are not those computed for the frame. -/
inductive Fault where
  | length (what : String) (expected actual : Nat)
  | credentialTooLong (field : String) (length limit : Nat)
  | address (detail : String)
  | dataTooLong (length limit : Nat)
  | integrity (expected actual : Bytes)
  | unknownOpcode (opcode : UInt8)
  | format (detail : String)
  deriving Repr, DecidableEq

/-- The wording of a fault. -/
def Fault.message : Fault → String
  | .length what expected actual =>
    s!"{what} frame has invalid length: expected {expected} bytes, got {actual}"
  | .credentialTooLong field size limit => s!"{field} is {size} bytes long (max {limit})"
  | .address detail => s!"Invalid device address: {detail}"
  | .dataTooLong size limit => s!"Command data too long: {size} bytes (max {limit})"
  | .integrity expected actual =>
    "Integrity check failed: expected " ++ Hex.encode expected ++ ", got " ++ Hex.encode actual
  | .unknownOpcode opcode => "Unknown opcode: 0x" ++ Hex.upperByte opcode
  | .format detail => s!"Invalid frame format: {detail}"

/-- A byte as it is named in wordings: two lower-case digits after `0x`. -/
def byteName (byte : UInt8) : String :=
  "0x" ++ Hex.encode [byte]

/-- A number of two bytes as it is named in wordings: four lower-case digits after `0x`. -/
def wordName (word : UInt16) : String :=
  "0x" ++ Hex.encode (Bytes.ofWord word).reverse

end MeshLight.Frame
