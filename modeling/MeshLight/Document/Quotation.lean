import MeshLight.Document.Plain

/-!
# Quoted text

Text between quotes may hold anything. Between single quotes a quote is written twice; between
double quotes a backslash begins an escape. Line ends are folded as in plain text, and an escaped
line end counts for nothing.
-/

namespace MeshLight.Document

/-- The kind of the quotes around a text. -/
inductive Quote where
  | single
  | double

/-- The mark of a kind of quotes. -/
def Quote.mark : Quote → Char
  | .single => '\''
  | .double => '"'

/-- The value of a hexadecimal digit. -/
def hexDigit? (c : Char) : Option Nat :=
  if '0' ≤ c && c ≤ '9' then some (c.toNat - '0'.toNat)
  else if 'a' ≤ c && c ≤ 'f' then some (c.toNat - 'a'.toNat + 10)
  else if 'A' ≤ c && c ≤ 'F' then some (c.toNat - 'A'.toNat + 10)
  else none

/-- The number that hexadecimal digits write. -/
def hexNumber? (digits : List Char) : Option Nat :=
  digits.foldlM (fun value c => (hexDigit? c).map (16 * value + ·)) 0

/-- The character whose number is written with a fixed count of digits. -/
def numbered? (count : Nat) (digits : List Char) : Option Char := do
  guard (count ≤ digits.length)
  let value ← hexNumber? (digits.take count)
  guard value.isValidChar
  return Char.ofNat value

/-- The character that an escape stands for, and the length of the escape without its backslash. -/
def escape? : List Char → Option (Char × Nat)
  | [] => none
  | c :: rest =>
    match c with
    | '0' => some ('\x00', 1)
    | 'a' => some ('\x07', 1)
    | 'b' => some ('\x08', 1)
    | 't' => some ('\t', 1)
    | '\t' => some ('\t', 1)
    | 'n' => some ('\n', 1)
    | 'v' => some ('\x0b', 1)
    | 'f' => some ('\x0c', 1)
    | 'r' => some ('\r', 1)
    | 'e' => some ('\x1b', 1)
    | ' ' => some (' ', 1)
    | '"' => some ('"', 1)
    | '/' => some ('/', 1)
    | '\\' => some ('\\', 1)
    | 'N' => some ('\u0085', 1)
    | '_' => some ('\u00a0', 1)
    | 'L' => some ('\u2028', 1)
    | 'P' => some ('\u2029', 1)
    | 'x' => (numbered? 2 rest).map (·, 3)
    | 'u' => (numbered? 4 rest).map (·, 5)
    | 'U' => (numbered? 8 rest).map (·, 9)
    | _ => none

/-- Reads quoted text on from a gap to the closing quote. A line that begins or ends a document is
refused within it. -/
def quotedFrom (quote : Quote) (text : List Char) (gap : Gap) (cursor : Cursor) :
    Option (List Char × Cursor) :=
  if cursor.seesMarker then none
  else
    match _taken : cursor.next? with
    | none => none
    | some (c, after) =>
      if isBreak c then quotedFrom quote text (gap.addBreak c) after
      else if isBlank c then quotedFrom quote text (gap.addBlank c) after
      else
        match quote with
        | .single =>
          if c == '\'' then
            match _twice : after.next? with
            | some ('\'', beyond) => quotedFrom .single (text ++ gap.text ++ ['\'']) {} beyond
            | _ => some (text ++ gap.text, after)
          else quotedFrom .single (text ++ gap.text ++ [c]) {} after
        | .double =>
          if c == '"' then some (text ++ gap.text, after)
          else if c == '\\' then
            match _escaped : after.next? with
            | none => none
            | some (d, beyond) =>
              if isBreak d then quotedFrom .double (text ++ gap.text) { crossed := true } beyond
              else
                match escape? after.rest with
                | none => none
                | some (value, length) =>
                  quotedFrom .double (text ++ gap.text ++ [value]) {} (after.advance length)
          else quotedFrom .double (text ++ gap.text ++ [c]) {} after
termination_by cursor.rest.length
decreasing_by
  · exact Cursor.length_of_next? _taken
  · exact Cursor.length_of_next? _taken
  · exact Nat.lt_trans (Cursor.length_of_next? _twice) (Cursor.length_of_next? _taken)
  · exact Cursor.length_of_next? _taken
  · exact Nat.lt_trans (Cursor.length_of_next? _escaped) (Cursor.length_of_next? _taken)
  · exact Nat.lt_of_le_of_lt (Cursor.length_advance _ _) (Cursor.length_of_next? _taken)
  · exact Cursor.length_of_next? _taken

/-- Reads quoted text from behind its opening quote. -/
def quoted (quote : Quote) (cursor : Cursor) : Option (List Char × Cursor) :=
  quotedFrom quote [] {} cursor

end MeshLight.Document
