/-!
# Values on the command line

Every parameter says what kind of value it takes. Numbers are read from the left, and the first
character that is no digit, or that makes the number too large, decides how the value is refused.
-/

namespace MeshLight.CommandLine

/-- Why a text is no whole number of some range. A sign alone is a fault of its digits. -/
inductive NumberFault where
  | empty
  | notDigit
  | tooLarge
  | tooSmall
  deriving Repr, DecidableEq

/-- The wording of a fault. -/
def NumberFault.message : NumberFault → String
  | .empty => "cannot parse integer from empty string"
  | .notDigit => "invalid digit found in string"
  | .tooLarge => "number too large to fit in target type"
  | .tooSmall => "number too small to fit in target type"

/-- The value of a decimal digit. -/
def digit? (c : Char) : Option Nat :=
  if '0' ≤ c ∧ c ≤ '9' then some (c.toNat - '0'.toNat) else none

/-- Reads digits behind a number; beyond the limit lies the given fault. -/
def digitsFrom (limit : Nat) (beyond : NumberFault) (value : Nat) :
    List Char → Except NumberFault Nat
  | [] => .ok value
  | c :: rest =>
    match digit? c with
    | none => .error .notDigit
    | some digit =>
      if 10 * value + digit ≤ limit then digitsFrom limit beyond (10 * value + digit) rest
      else .error beyond

/-- Reads the number that some digits write; there has to be one. -/
def digits (limit : Nat) (beyond : NumberFault) : List Char → Except NumberFault Nat
  | [] => .error .notDigit
  | all => digitsFrom limit beyond 0 all

/-- Reads a number without a sign or with a plus sign. -/
def unsigned (limit : Nat) (text : String) : Except NumberFault Nat :=
  match text.toList with
  | [] => .error .empty
  | '+' :: rest => digits limit .tooLarge rest
  | all => digits limit .tooLarge all

/-- Reads a number of 64 bits with or without a sign. -/
def signed (text : String) : Except NumberFault Int :=
  match text.toList with
  | [] => .error .empty
  | '+' :: rest => (digits 0x7fffffffffffffff .tooLarge rest).map Int.ofNat
  | '-' :: rest => (digits 0x8000000000000000 .tooSmall rest).map fun value => -Int.ofNat value
  | all => (digits 0x7fffffffffffffff .tooLarge all).map Int.ofNat

/-- Why a value is refused: it is no number, or none that can be stored; it is more than a hundred;
or it is no byte. -/
inductive ValueFault where
  | number (fault : NumberFault)
  | notPercentage (value : Nat)
  | notByte (value : Int)
  deriving Repr, DecidableEq

/-- The wording of a fault. -/
def ValueFault.message : ValueFault → String
  | .number fault => fault.message
  | .notPercentage value => toString value ++ " is not a percentage (0-100)"
  | .notByte value => toString value ++ " is not in 0..=255"

/-- Reads a percentage. -/
def percentage (text : String) : Except ValueFault UInt8 := do
  let value ← (unsigned 255 text).mapError .number
  if value ≤ 100 then return UInt8.ofNat value
  else throw (.notPercentage value)

/-- Reads a byte. -/
def byte (text : String) : Except ValueFault UInt8 := do
  let value ← (signed text).mapError .number
  if 0 ≤ value ∧ value ≤ 255 then return UInt8.ofNat value.toNat
  else throw (.notByte value)

/-- Reads a number of 64 bits without a sign. -/
def word (text : String) : Except ValueFault UInt64 := do
  let value ← (unsigned 0xffffffffffffffff text).mapError .number
  return UInt64.ofNat value

end MeshLight.CommandLine
