import MeshLight.Text.Escaped

/-!
# Quoted text

A value shown for inspection puts texts between double quotes and characters between single quotes.
The backslash, the quote in use, the usual controls and every character of the table `Escaped` are
written as escapes; everything else stands for itself.
-/

namespace MeshLight.Quoted

/-- The hexadecimal digits of a code point, without leading zeros. -/
def pointDigits (point : Nat) : List Char :=
  Nat.toDigits 16 point

/-- One character of a text whose quote is `quote`. -/
def escape (quote : Char) (character : Char) : List Char :=
  if character = '\x00' then ['\\', '0']
  else if character = '\t' then ['\\', 't']
  else if character = '\r' then ['\\', 'r']
  else if character = '\n' then ['\\', 'n']
  else if character = '\\' then ['\\', '\\']
  else if character = quote then ['\\', quote]
  else if Escaped.isEscaped character then
    ['\\', 'u', '\x7b'] ++ pointDigits character.toNat ++ ['\x7d']
  else [character]

/-- A text between double quotes. -/
def text (content : String) : String :=
  String.ofList ('"' :: content.toList.flatMap (escape '"') ++ ['"'])

/-- A character between single quotes. -/
def character (content : Char) : String :=
  String.ofList ('\'' :: escape '\'' content ++ ['\''])

end MeshLight.Quoted
