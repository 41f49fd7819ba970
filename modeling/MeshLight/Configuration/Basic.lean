import MeshLight.Session.Settings

/-!
# Configurations

What a user says about one light, not checked yet, and the session settings that follow from it. A
configuration is checked field by field in a fixed order: the address, the mesh name, the mesh
password, the bound on each step.
-/

namespace MeshLight

/-- The configuration of one light. Commands are addressed to the mesh id; the bound on each step is
in milliseconds; with a seed, the session's randomness is reproducible. -/
structure Configuration where
  address : String
  meshName : String := "unpaired"
  meshPassword : String := "1234"
  meshId : UInt16 := 0
  stepTimeout : UInt64 := UInt64.ofNat Session.defaultBound
  seed : Option UInt64 := none
  deriving Repr, DecidableEq

namespace Configuration

/-- Why the text of a configuration could not be had: there is no such file, or its bytes are no
text. -/
inductive Unreadable where
  | missing
  | notText
  deriving Repr, DecidableEq

/-- The wording of a reason. -/
def Unreadable.message : Unreadable → String
  | .missing => "No such file or directory (os error 2)"
  | .notText => "stream did not contain valid UTF-8"

/-- Why a configuration is refused: its text could not be had, or is no document with the fields of
a configuration; a field has a value that is not allowed; or the bound on each step is zero. -/
inductive Refusal where
  | unreadable (reason : Unreadable)
  | malformed
  | invalid (fault : Frame.Fault)
  | zeroTimeout
  deriving Repr, DecidableEq

/-- The wording of a refusal. -/
def Refusal.message : Refusal → String
  | .unreadable reason => "Failed to read config: " ++ reason.message
  | .malformed => "Failed to parse config"
  | .invalid fault => "Invalid config value: " ++ fault.message
  | .zeroTimeout => "step_timeout_ms must be greater than zero"

/-- A result whose fault is that of a field. -/
def orInvalid {Value : Type} (result : Except Frame.Fault Value) : Except Refusal Value :=
  result.mapError .invalid

/-- The settings of the session that a configuration describes. -/
def settings (configuration : Configuration) : Except Refusal Session.Settings := do
  let address ← orInvalid (Address.parse configuration.address)
  let credentials ←
    orInvalid (Credentials.make configuration.meshName configuration.meshPassword)
  if configuration.stepTimeout = 0 then
    throw .zeroTimeout
  return { address, credentials, meshId := configuration.meshId,
           bound := configuration.stepTimeout.toNat, seed := configuration.seed }

/-- Refuses a configuration from which no settings follow. -/
def validate (configuration : Configuration) : Except Refusal Unit :=
  configuration.settings.map fun _ => ()

end Configuration

end MeshLight
