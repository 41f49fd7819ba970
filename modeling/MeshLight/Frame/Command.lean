import MeshLight.Frame.Protection
import MeshLight.Identity.Address
import MeshLight.Identity.Session
import MeshLight.Light.Command
import MeshLight.Light.Status

/-!
# Command frames

Twenty bytes: a sequence number of three bytes, two check bytes and a covered payload of fifteen.
The payload is the destination, the opcode, the vendor and the data, filled up with zeros. The nonce
is made of the last four bytes of the address in air order, a one and the sequence number.
-/

namespace MeshLight.Frame

/-- The number of one frame, of three bytes. -/
abbrev Sequence := Vector UInt8 3

/-- The bytes of data that a command frame can hold. -/
def commandDataLimit : Nat := 10

/-- The nonce of a command frame. -/
def commandNonce (address : Address) (sequence : Sequence) : Nonce :=
  Bytes.fitted 8 (address.airOrder.toList.take 4 ++ 0x01 :: sequence.toList)

/-- The plain payload of a command frame. -/
def commandPayload (destination : UInt16) (opcode : UInt8) (data : Bytes) : Bytes :=
  Bytes.ofWord destination ++ opcode :: Bytes.ofWord Light.vendor
    ++ (Bytes.fitted commandDataLimit data).toList

/-- A command frame after its check has passed. The destination is the mesh id that the command is
meant for; the data has the zeros behind it. -/
structure CommandFrame where
  sequence : Sequence
  destination : UInt16
  opcode : UInt8
  vendor : UInt16
  data : Vector UInt8 10
  deriving Repr, DecidableEq

/-- The light command of a frame. -/
def CommandFrame.light (frame : CommandFrame) : Except Fault Light.Command :=
  Light.Command.decode frame.opcode frame.data.toList

/-- The frame for some data under a key, bound to an address. -/
def encodeCommand (key : SessionKey) (address : Address) (sequence : Sequence)
    (destination : UInt16) (opcode : UInt8) (data : Bytes) : Except Fault Bytes :=
  if data.length ≤ commandDataLimit then
    let nonce := commandNonce address sequence
    let payload := commandPayload destination opcode data
    .ok (sequence.toList ++ (check key.block nonce payload).toList.take 2
      ++ cover key.block nonce payload)
  else .error (.dataTooLong data.length commandDataLimit)

/-- The frame of a light command. -/
def encodeLightCommand (key : SessionKey) (address : Address) (sequence : Sequence)
    (destination : UInt16) (command : Light.Command) : Except Fault Bytes :=
  encodeCommand key address sequence destination command.opcode command.data

/-- Uncovers a frame and compares its check. -/
def decodeCommand (key : SessionKey) (address : Address) (frame : Bytes) :
    Except Fault CommandFrame :=
  if frame.length ≠ 20 then .error (.length "command" 20 frame.length)
  else
    let sequence : Sequence := Bytes.fitted 3 frame
    let nonce := commandNonce address sequence
    let payload := cover key.block nonce (frame.drop 5)
    let expected := (check key.block nonce payload).toList.take 2
    let carried := (frame.drop 3).take 2
    if expected ≠ carried then .error (.integrity expected carried)
    else
      let byte (index : Nat) := payload.getD index 0
      .ok { sequence
            destination := Bytes.toWord (byte 0) (byte 1)
            opcode := byte 2
            vendor := Bytes.toWord (byte 3) (byte 4)
            data := Bytes.fitted 10 (payload.drop 5) }

end MeshLight.Frame
