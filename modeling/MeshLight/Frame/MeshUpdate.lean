import MeshLight.Cipher.Reversed
import MeshLight.Identity.Credentials
import MeshLight.Identity.Session

/-!
# Mesh update frames

Three frames, one for each field, move a light into another mesh. A frame is the tag of the field
and the value, filled up with zeros and enciphered as one block under the session key.
-/

namespace MeshLight.Frame

open Cipher (encrypt decrypt)

/-- First byte of the light's reply to an accepted update. -/
def meshAcceptedTag : UInt8 := 0x07

/-- The frame that replaces a field. -/
def encodeMeshUpdate (key : SessionKey) (field : MeshField) (value : Bytes) :
    Except Fault Bytes :=
  (checkField field.label value).map fun _ =>
    field.tag :: (encrypt key.block (Bytes.fitted 16 value)).toList

/-- The field of an update frame and its value with the zeros behind it. -/
def decodeMeshUpdate (key : SessionKey) (frame : Bytes) :
    Except Fault (MeshField × Cipher.Block) :=
  if frame.length ≠ 17 then .error (.length "mesh update" 17 frame.length)
  else
    let tag := frame.headD 0
    match MeshField.ofTag? tag with
    | none => .error (.format ("mesh update tag " ++ byteName tag))
    | some field => .ok (field, decrypt key.block (Bytes.fitted 16 (frame.drop 1)))

end MeshLight.Frame
