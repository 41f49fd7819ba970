import MeshLight.Bytes
import MeshLight.Text.Quoted

/-!
# Hexadecimal text

Writing uses two lower-case digits a byte. Reading takes either case and refuses an odd number of
digits before it looks at any of them; after that it refuses the first byte that is no digit and
says where it stands.
-/

namespace MeshLight.Hex

/-- The digit of a value below sixteen. -/
def digit (value : Nat) : Char :=
  if value < 10 then Char.ofNat (48 + value) else Char.ofNat (87 + value)

/-- The two digits of a byte. -/
def ofByte (byte : UInt8) : List Char :=
  [digit (byte.toNat / 16), digit (byte.toNat % 16)]

/-- Lower-case text of some bytes. -/
def encode (bytes : Bytes) : String :=
  String.ofList (bytes.flatMap ofByte)

/-- The upper-case text of one byte. -/
def upperByte (byte : UInt8) : String :=
  String.ofList ((ofByte byte).map Char.toUpper)

/-- The value of a digit of either case, given as its ASCII byte. -/
def value? (byte : UInt8) : Option UInt8 :=
  if 48 ≤ byte ∧ byte ≤ 57 then some (byte - 48)
  else if 65 ≤ byte ∧ byte ≤ 70 then some (byte - 55)
  else if 97 ≤ byte ∧ byte ≤ 102 then some (byte - 87)
  else none

/-- Why a text is not hexadecimal: the digits do not come in pairs, or the byte at a position is no
digit. -/
inductive Fault where
  | oddLength
  | badDigit (byte : UInt8) (position : Nat)
  deriving Repr, DecidableEq

/-- The wording of a fault. A byte is shown as the character of that number. -/
def Fault.message : Fault → String
  | .oddLength => "Odd number of digits"
  | .badDigit byte position =>
    "Invalid character " ++ Quoted.character (Char.ofNat byte.toNat) ++ " at position "
      ++ toString position

/-- Reads pairs of digits, the first of which stands at `position`. -/
def decodeFrom (position : Nat) : Bytes → Except Fault Bytes
  | high :: low :: rest =>
    match value? high, value? low with
    | some upper, some lower => (decodeFrom (position + 2) rest).map ((upper * 16 + lower) :: ·)
    | some _, none => .error (.badDigit low (position + 1))
    | none, _ => .error (.badDigit high position)
  | _ => .ok []

/-- The bytes that a hexadecimal text, given in ASCII, stands for. -/
def decode (text : Bytes) : Except Fault Bytes :=
  if text.length % 2 = 1 then .error .oddLength else decodeFrom 0 text

end MeshLight.Hex
