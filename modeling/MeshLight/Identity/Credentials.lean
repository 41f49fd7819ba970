import MeshLight.Frame.Fault
import MeshLight.Cipher.Rounds

/-!
# Mesh credentials

A mesh is entered with a name and a password of at most sixteen bytes each. The limit is part of the
type, so credentials that do not fit never reach a light. All derivations see the credentials
through one block, the exclusive or of the two fields filled up with zeros.
-/

namespace MeshLight

/-- The bytes that a light can store of a mesh name, a mesh password or a long-term key. -/
def fieldLimit : Nat := 16

/-- A field of a light that a mesh update replaces. -/
inductive MeshField where
  | name
  | password
  | longTermKey
  deriving Repr, DecidableEq

namespace MeshField

/-- The name of the field in wordings. -/
def label : MeshField → String
  | .name => "mesh name"
  | .password => "mesh password"
  | .longTermKey => "long-term key"

/-- The first byte of the frame that replaces the field. -/
def tag : MeshField → UInt8
  | .name => 0x04
  | .password => 0x05
  | .longTermKey => 0x06

/-- The field whose frame begins with a byte. -/
def ofTag? (tag : UInt8) : Option MeshField :=
  if tag = 0x04 then some .name
  else if tag = 0x05 then some .password
  else if tag = 0x06 then some .longTermKey
  else none

end MeshField

/-- Refuses a value longer than a light can store. -/
def checkField (label : String) (value : Bytes) : Except Frame.Fault Unit :=
  if value.length ≤ fieldLimit then .ok ()
  else .error (.credentialTooLong label value.length fieldLimit)

/-- A mesh name and its password, both of which fit into their fields. -/
structure Credentials where
  name : String
  password : String
  name_fits : (Bytes.ofText name).length ≤ fieldLimit
  password_fits : (Bytes.ofText password).length ≤ fieldLimit
  deriving DecidableEq

namespace Credentials

/-- Credentials from two texts. The name is checked first. -/
def make (name password : String) : Except Frame.Fault Credentials :=
  if nameFits : (Bytes.ofText name).length ≤ fieldLimit then
    if passwordFits : (Bytes.ofText password).length ≤ fieldLimit then
      .ok ⟨name, password, nameFits, passwordFits⟩
    else
      .error (.credentialTooLong MeshField.password.label (Bytes.ofText password).length fieldLimit)
  else
    .error (.credentialTooLong MeshField.name.label (Bytes.ofText name).length fieldLimit)

/-- The block from which every secret of the mesh is derived. -/
def secret (credentials : Credentials) : Cipher.Block :=
  Cipher.Block.exclusiveOr (Bytes.fitted 16 (Bytes.ofText credentials.name))
    (Bytes.fitted 16 (Bytes.ofText credentials.password))

/-- The form shown for inspection; the password stays hidden. -/
def shown (credentials : Credentials) : String :=
  "MeshCredentials \x7b name: " ++ Quoted.text credentials.name
    ++ ", password: \"<redacted>\" \x7d"

end Credentials

end MeshLight
