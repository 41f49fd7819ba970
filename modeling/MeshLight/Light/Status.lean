import MeshLight.Frame.Fault

/-!
# Light status

The output state that a light reports. Its payload names the kind of notification and the vendor and
then lists the fields; reading it back ignores whatever follows.
-/

namespace MeshLight.Light

open MeshLight.Frame (Fault wordName)

/-- The vendor named in every command frame and every status payload. -/
def vendor : UInt16 := 0x0160

/-- The opcode of a status notification. -/
def statusOpcode : UInt8 := 0xdc

/-- The output state of a light. White brightness is on a scale up to 127; the brightness of the
colour is that of the coloured light. -/
structure Status where
  meshId : UInt16
  on : Bool := false
  whiteBrightness : UInt8 := 0
  whiteTemperature : UInt8 := 0
  red : UInt8 := 0
  green : UInt8 := 0
  blue : UInt8 := 0
  colorBrightness : UInt8 := 0
  deriving Repr, DecidableEq

namespace Status

/-- The payload of twelve bytes. -/
def encode (status : Status) : Bytes :=
  statusOpcode :: (Bytes.ofWord vendor ++ Bytes.ofWord status.meshId ++
    [if status.on then 1 else 0, status.whiteBrightness, status.whiteTemperature, status.red,
      status.green, status.blue, status.colorBrightness])

/-- Reads a payload. -/
def decode (payload : Bytes) : Except Fault Status :=
  match payload with
  | opcode :: vendorLow :: vendorHigh :: idLow :: idHigh :: on :: whiteBrightness ::
      whiteTemperature :: red :: green :: blue :: colorBrightness :: _ =>
    if opcode ≠ statusOpcode then .error (.unknownOpcode opcode)
    else if Bytes.toWord vendorLow vendorHigh ≠ vendor then
      .error (.format ("vendor id " ++ wordName (Bytes.toWord vendorLow vendorHigh)))
    else
      .ok { meshId := Bytes.toWord idLow idHigh, on := on ≠ 0, whiteBrightness, whiteTemperature,
            red, green, blue, colorBrightness }
  | _ => .error (.length "status" 12 payload.length)

/-- The line shown to a user. -/
def text (status : Status) : String :=
  let switch := if status.on then "on" else "off"
  s!"mesh id {status.meshId}: {switch}, white {status.whiteBrightness}/127 temp " ++
    s!"{status.whiteTemperature}, rgb ({status.red}, {status.green}, {status.blue}) at " ++
    s!"{status.colorBrightness}%"

end Status

end MeshLight.Light
