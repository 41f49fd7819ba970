import MeshLight.Configuration.Basic
import MeshLight.Configuration.Number
import MeshLight.Document.Reference

/-!
# Reading a configuration

The text of a configuration is a document that maps field names to values. Only the address must be
there; unknown fields, and fields that stand in it twice, are refused.
-/

namespace MeshLight.Configuration

open Document (Mapping Scalar)

/-- The names of the fields. -/
def fieldNames : List String :=
  ["address", "mesh_name", "mesh_password", "mesh_id", "step_timeout_ms", "rng_seed"]

/-- The configuration that some fields describe. -/
def ofFields? (fields : List (String × Scalar)) : Option Configuration := do
  let names := fields.map (·.1)
  guard (names.all fieldNames.contains && names.eraseDups.length == names.length)
  let address ← fields.lookup "address"
  let text (name default : String) : String := ((fields.lookup name).map (·.text)).getD default
  let number (name : String) (limit default : Nat) : Option Nat :=
    (fields.lookup name).elim (some default) (number? limit)
  let plain : Configuration := { address := address.text }
  let meshId ← number "mesh_id" 0xffff plain.meshId.toNat
  let stepTimeout ← number "step_timeout_ms" 0xffffffffffffffff plain.stepTimeout.toNat
  let seed ← (fields.lookup "rng_seed").elim (some none) (numberOrNull? 0xffffffffffffffff)
  return { plain with
    meshName := text "mesh_name" plain.meshName
    meshPassword := text "mesh_password" plain.meshPassword
    meshId := UInt16.ofNat meshId
    stepTimeout := UInt64.ofNat stepTimeout
    seed := seed.map UInt64.ofNat }

/-- The configuration that a text describes, whether or not its values are allowed. -/
def parse? (text : String) : Option Configuration := do
  let mapping ← Mapping.ofText? text
  let entries ← mapping.scalars?
  ofFields? (entries.map fun (key, value) => (key.text, value))

/-- Reads a configuration whose values are allowed. -/
def read (text : String) : Except Refusal Configuration := do
  let configuration ←
    match parse? text with
    | some configuration => .ok configuration
    | none => .error .malformed
  configuration.validate
  return configuration

/-- The text of a file, given by its bytes if it is there. -/
def textOf (content : Option ByteArray) : Except Unreadable String :=
  match content with
  | none => .error .missing
  | some bytes =>
    match String.fromUTF8? bytes with
    | some text => .ok text
    | none => .error .notText

/-- Reads the configuration in a file. -/
def load (content : Option ByteArray) : Except Refusal Configuration := do
  let text ← (textOf content).mapError .unreadable
  read text

end MeshLight.Configuration
