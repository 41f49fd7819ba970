import MeshLight.Frame.Fault

/-!
# Light commands

What a light can be told to do. Each command has an opcode and a short block of data; reading them
back ignores whatever follows, since frames fill the block up with zeros.
-/

namespace MeshLight.Light

open MeshLight.Frame (Fault byteName)

/-- One action of a light. The brightness of the white light is on a scale up to 127. -/
inductive Command where
  | power (on : Bool)
  | whiteTemperature (value : UInt8)
  | whiteBrightness (value : UInt8)
  | color (red green blue : UInt8)
  | colorBrightness (value : UInt8)
  deriving Repr, DecidableEq

/-- The upper end of the scale of white brightness. -/
def whiteBrightnessLimit : UInt8 := 127

/-- The byte before the three channels of a colour. -/
def colorMode : UInt8 := 0x04

/-- A percentage on a scale that ends at `limit`, rounded down; more than a hundred counts as a
hundred. -/
def scaled (percent limit : UInt8) : UInt8 :=
  UInt8.ofNat (min percent.toNat 100 * limit.toNat / 100)

namespace Command

/-- White brightness from a percentage. -/
def whiteBrightnessPercent (percent : UInt8) : Command :=
  .whiteBrightness (scaled percent whiteBrightnessLimit)

/-- White temperature from a percentage. -/
def whiteTemperaturePercent (percent : UInt8) : Command :=
  .whiteTemperature (scaled percent 100)

/-- Colour brightness from a percentage. -/
def colorBrightnessPercent (percent : UInt8) : Command :=
  .colorBrightness (scaled percent 100)

/-- A colour from a percentage for each channel. -/
def colorPercent (red green blue : UInt8) : Command :=
  .color (scaled red 255) (scaled green 255) (scaled blue 255)

/-- The opcode of a command. -/
def opcode : Command → UInt8
  | .power _ => 0xd0
  | .whiteTemperature _ => 0xf0
  | .whiteBrightness _ => 0xf1
  | .color _ _ _ => 0xe2
  | .colorBrightness _ => 0xf2

/-- The data behind the opcode. -/
def data : Command → Bytes
  | .power on => [if on then 1 else 0]
  | .whiteTemperature value => [value]
  | .whiteBrightness value => [value]
  | .color red green blue => [colorMode, red, green, blue]
  | .colorBrightness value => [value]

/-- The first byte of a data block. -/
def firstByte (what : String) : Bytes → Except Fault UInt8
  | [] => .error (.length what 1 0)
  | value :: _ => .ok value

/-- The command of an opcode and a data block. -/
def decode (opcode : UInt8) (block : Bytes) : Except Fault Command :=
  if opcode = 0xd0 then (firstByte "power" block).map fun value => .power (value ≠ 0)
  else if opcode = 0xf0 then (firstByte "white temperature" block).map .whiteTemperature
  else if opcode = 0xf1 then (firstByte "white brightness" block).map .whiteBrightness
  else if opcode = 0xf2 then (firstByte "color brightness" block).map .colorBrightness
  else if opcode = 0xe2 then
    match block with
    | mode :: red :: green :: blue :: _ =>
      if mode = colorMode then .ok (.color red green blue)
      else .error (.format ("unsupported color mode " ++ byteName mode))
    | _ => .error (.length "color" 4 block.length)
  else .error (.unknownOpcode opcode)

/-- The form shown for inspection. -/
def shown : Command → String
  | .power on => s!"Power({on})"
  | .whiteTemperature value => s!"WhiteTemperature({value})"
  | .whiteBrightness value => s!"WhiteBrightness({value})"
  | .color red green blue => s!"Color \x7b red: {red}, green: {green}, blue: {blue} \x7d"
  | .colorBrightness value => s!"ColorBrightness({value})"

end Command

end MeshLight.Light
