import MeshLight.Frame.MeshUpdate
import MeshLight.Session.Controller

/-!
# Moving into another mesh

An established session can move its light onto new credentials: three frames replace the name, the
password and the long-term key, and the light's reply decides. The controller takes the new
credentials exactly when the light accepted them.
-/

namespace MeshLight.Session

namespace Controller

/-- The three frames of a move, in the order in which they are written. -/
def migrationFrames (key : SessionKey) (credentials : Credentials) (longTermKey : Bytes) :
    Except Frame.Fault (List Bytes) := do
  let name ← Frame.encodeMeshUpdate key .name (Bytes.ofText credentials.name)
  let password ← Frame.encodeMeshUpdate key .password (Bytes.ofText credentials.password)
  let longTerm ← Frame.encodeMeshUpdate key .longTermKey longTermKey
  return [name, password, longTerm]

/-- Writes frames one after the other. -/
def writeAll (controller : Controller) : List Bytes → Attempt Unit
  | [] => pure ()
  | frame :: frames => do
    controller.write "mesh update" .pairing frame
    controller.writeAll frames

/-- Writes the frames and reads the light's reply. -/
def announce (controller : Controller) (frames : List Bytes) : Attempt Unit := do
  controller.writeAll frames
  match ← controller.read "mesh update reply" .pairing with
  | [] => throw (.protocol "empty mesh update reply")
  | tag :: _ =>
    if tag = Frame.meshAcceptedTag then return ()
    else throw (.protocol ("mesh update rejected with tag " ++ Frame.byteName tag))

/-- Moves the light onto new credentials. Values that do not fit are refused before any traffic. -/
def migrate (controller : Controller) (credentials : Credentials) (longTermKey : Bytes) :
    Procedure (Except Failure Unit × Controller) := do
  match ← controller.requireKey.run with
  | .error failure => return (.error failure, controller)
  | .ok key =>
    match migrationFrames key credentials longTermKey with
    | .error fault => return (.error (.invalidCredentials fault), controller)
    | .ok frames =>
      match ← (controller.announce frames).run with
      | .ok _ =>
        Procedure.emit (.meshUpdated credentials.name)
        return (.ok (), { controller with credentials })
      | .error failure =>
        abort failure
        return (.error failure, controller)

end Controller

end MeshLight.Session
