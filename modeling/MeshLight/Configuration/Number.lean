import MeshLight.Document.Node

/-!
# Numbers in documents

A plain scalar is a number if it is written in decimal digits without a needless zero in front, or
in hexadecimal, octal or binary digits behind their marks; a plus sign may precede any of them.
-/

namespace MeshLight.Configuration

open Document (Scalar)

/-- The value of a digit below sixteen. -/
def digit? (base : Nat) (c : Char) : Option Nat :=
  (Document.hexDigit? c).filter (· < base)

/-- The number that some digits write, at least one of them. -/
def digits? (base : Nat) (digits : List Char) : Option Nat :=
  if digits.isEmpty then none
  else digits.foldlM (fun value c => (digit? base c).map (base * value + ·)) 0

/-- The text without a plus sign. -/
def withoutPlus : List Char → List Char
  | '+' :: rest => rest
  | text => text

/-- The number that a text writes. -/
def unsigned? (text : List Char) : Option Nat :=
  match withoutPlus text with
  | ['0'] => some 0
  | '0' :: 'x' :: digits => digits? 16 digits
  | '0' :: 'o' :: digits => digits? 8 digits
  | '0' :: 'b' :: digits => digits? 2 digits
  | '0' :: _ => none
  | digits => digits? 10 digits

/-- Whether a text is a written null. -/
def isNull (text : String) : Bool :=
  ["~", "null", "Null", "NULL"].contains text

/-- Whether a scalar may be a number: a plain one, or kept lines with the tag of integers. -/
def mayBeNumber (scalar : Scalar) : Bool :=
  scalar.style == .plain || (scalar.style == .literal && scalar.tag == some Document.integerTag)

/-- The number that a scalar is, up to a limit. -/
def number? (limit : Nat) (scalar : Scalar) : Option Nat :=
  if mayBeNumber scalar then (unsigned? scalar.text.toList).filter (· ≤ limit) else none

/-- The number that a scalar is, or nothing for a null, up to a limit. A scalar with the tag of
nulls has to be a written null. -/
def numberOrNull? (limit : Nat) (scalar : Scalar) : Option (Option Nat) :=
  if scalar.style ≠ .plain then (number? limit scalar).map some
  else
    match scalar.tag with
    | none =>
      if scalar.text.isEmpty || isNull scalar.text then some none
      else (number? limit scalar).map some
    | some tag =>
      if tag = Document.nullTag then
        if isNull scalar.text then some none else none
      else (number? limit scalar).map some

end MeshLight.Configuration
