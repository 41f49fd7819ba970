import MeshLight.Frame.Fault

/-!
# Device addresses

A light is known by six bytes, most significant first. An address is read from hexadecimal text in
which colons and dashes may stand anywhere, and written as six upper-case pairs joined by colons.
-/

namespace MeshLight

/-- The address of one light, as six bytes in the order in which they are written, the most
significant one first. -/
structure Address where
  bytes : Vector UInt8 6
  deriving Repr, DecidableEq

namespace Address

/-- A character that may stand between digits. -/
def isSeparator (character : Char) : Bool :=
  character == ':' || character == '-'

/-- The text without its separators. -/
def digits (text : String) : String :=
  String.ofList (text.toList.filter fun character => !isSeparator character)

/-- Reads an address. -/
def parse (text : String) : Except Frame.Fault Address :=
  match Hex.decode (Bytes.ofText (digits text)) with
  | .error fault => .error (.address (text ++ ": " ++ fault.message))
  | .ok bytes =>
    if bytes.length = 6 then .ok ⟨Bytes.fitted 6 bytes⟩
    else .error (.address (text ++ ": expected 6 bytes"))

/-- The pairs of digits joined by a separator. -/
def joined (separator : String) (address : Address) : String :=
  String.intercalate separator (address.bytes.toList.map Hex.upperByte)

/-- The written form. -/
def text (address : Address) : String :=
  address.joined ":"

/-- The form shown for inspection. -/
def shown (address : Address) : String :=
  "DeviceAddress(" ++ address.text ++ ")"

/-- The bytes in the order of the air: least significant first. -/
def airOrder (address : Address) : Vector UInt8 6 :=
  address.bytes.reverse

end Address

end MeshLight
