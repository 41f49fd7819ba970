import MeshLight.Session.Command
import MeshLight.Session.Migration
import MeshLight.Session.Pairing

/-!
# Requests

What a caller can ask of the worker of a light, and what it gets back.
-/

namespace MeshLight.Session

/-- An operation on a light. The last one moves it onto new credentials with a long-term key. -/
inductive Request where
  | pair
  | light (command : Light.Command)
  | status
  | migrate (credentials : Credentials) (longTermKey : Bytes)
  deriving DecidableEq

/-- What a successful operation gives: nothing but the success, or a notification. -/
inductive Answer where
  | done
  | notification (content : Frame.Notification)
  deriving Repr, DecidableEq

/-- What an operation gives. -/
abbrev Result := Except Failure Answer

/-- Carries a request out. -/
def Controller.perform (controller : Controller) (meshId : UInt16) :
    Request → Procedure (Result × Controller)
  | .pair => do
    let (result, changed) ← controller.pair
    return (result.map fun _ => .done, changed)
  | .light command => do
    let (result, changed) ← controller.send meshId command
    return (result.map fun _ => .done, changed)
  | .status => do
    let result ← controller.readStatus
    return (result.map .notification, controller)
  | .migrate credentials longTermKey => do
    let (result, changed) ← controller.migrate credentials longTermKey
    return (result.map fun _ => .done, changed)

/-- Pairs after the link became ready, unless there is a session already. -/
def Controller.greet (controller : Controller) : Procedure (Result × Controller) := do
  match ← Procedure.sessionKey with
  | some _ => return (.ok .done, controller)
  | none =>
    let (result, changed) ← controller.pair
    return (result.map fun _ => .done, changed)

end MeshLight.Session
