import MeshLight.Frame.Pairing
import MeshLight.Session.Controller

/-!
# Pairing

A pairing drops any earlier key and takes three steps: the request, the status echo and the
response. The key derived from an accepting response is installed unless the link was lost in
between. A failed pairing leaves no key behind.
-/

namespace MeshLight.Session

namespace Controller

/-- The conversation that leads to a key. -/
def handshake (controller : Controller) (random : SessionRandom) : Attempt SessionKey := do
  let request := Frame.encodePairRequest controller.credentials random
  controller.write "pair request" .pairing request
  controller.write "status echo" .status Frame.statusEcho
  let response ← controller.read "pair response" .pairing
  match Frame.decodePairResponse response with
  | .error fault => throw (.protocol fault.message)
  | .ok (.accepted device) =>
    return Frame.deriveSessionKey controller.credentials random device
  | .ok .rejected => throw (.authentication controller.address)
  | .ok (.unexpected tag) =>
    throw (.protocol ("unexpected pair response tag " ++ Frame.byteName tag))

/-- Installs a key that was derived at a number of link losses. -/
def install (key : SessionKey) (epoch : Nat) : Attempt Unit :=
  ExceptT.mk do
    if ← Procedure.installKey key epoch then
      return .ok ()
    else if ← Procedure.isCancelled then
      return .error .cancelled
    else
      return .error (.linkLost "session key")

/-- Reports and counts the end of a pairing and applies the policy if it failed. -/
def concludePairing : Except Failure Unit → Procedure Unit
  | .ok _ => do
    Procedure.count .pairingEstablished
    Procedure.emit (.pairingFinished .established)
  | .error failure => do
    Procedure.count (.pairingFailure failure.reason)
    Procedure.emit (.pairingFinished failure.outcome)
    abort failure

/-- Pairs with the light. -/
def pair (controller : Controller) : Procedure (Except Failure Unit × Controller) := do
  Procedure.count .pairingAttempt
  let _ ← Procedure.clearKey
  let epoch ← Procedure.lossCount
  Procedure.emit .pairingStarted
  let (random, drawn) := controller.drawRandom
  let result ← ExceptT.run do
    let key ← drawn.handshake random
    install key epoch
  concludePairing result
  return (result, drawn)

end Controller

end MeshLight.Session
