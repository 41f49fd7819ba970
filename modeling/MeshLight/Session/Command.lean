import MeshLight.Frame.Notification
import MeshLight.Session.Controller

/-!
# Commands and statuses

An established session sends light commands under fresh sequence numbers and reads the light's
status. Both are refused without any traffic while there is no key.
-/

namespace MeshLight.Session

namespace Controller

/-- Enciphers a command and writes it. A sequence number is drawn only if there is a key. -/
def deliver (controller : Controller) (meshId : UInt16) (command : Light.Command) :
    Procedure (Except Failure Unit × Controller) := do
  match ← controller.requireKey.run with
  | .error failure => return (.error failure, controller)
  | .ok key =>
    let (sequence, drawn) := controller.drawSequence
    match Frame.encodeLightCommand key drawn.address sequence meshId command with
    | .error fault => return (.error (.packet fault), drawn)
    | .ok frame =>
      let result ← (drawn.write "command" .command frame).run
      return (result, drawn)

/-- Sends a light command, and reports and counts how it went. -/
def send (controller : Controller) (meshId : UInt16) (command : Light.Command) :
    Procedure (Except Failure Unit × Controller) := do
  let (result, drawn) ← controller.deliver meshId command
  match result with
  | .ok _ =>
    Procedure.count (.commandSent command.opcode)
    Procedure.emit (.commandSent command.opcode)
  | .error failure =>
    Procedure.count (.commandFailed failure.reason)
    Procedure.emit (.commandFailed command.opcode failure.reason)
    abort failure
  return (result, drawn)

/-- Reads a notification and checks it under the session key. -/
def fetchStatus (controller : Controller) : Attempt Frame.Notification := do
  let key ← controller.requireKey
  let frame ← controller.read "status" .status
  match Frame.decodeNotification key controller.address frame with
  | .error fault => throw (.packet fault)
  | .ok notification => return notification

/-- Reads the status, and reports and counts a success. -/
def readStatus (controller : Controller) : Procedure (Except Failure Frame.Notification) := do
  let result ← controller.fetchStatus.run
  match result with
  | .ok notification =>
    Procedure.count .statusRead
    Procedure.emit (.statusReceived notification.source notification.payload)
  | .error failure => abort failure
  return result

end Controller

end MeshLight.Session
