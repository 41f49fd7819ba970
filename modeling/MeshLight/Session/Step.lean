import MeshLight.Session.Procedure

/-!
# Steps

A step is one operation on the transport: a new cycle, the call, a bounded wait, and another new
cycle so that nothing is left over. A step that fails while the link was lost meanwhile is a lost
link, whatever the transport said.
-/

namespace MeshLight.Session

open Link (Phase Characteristic)
open Report (Event Count)

/-- A procedure that may fail. -/
abbrev Attempt := ExceptT Failure Procedure

namespace Step

/-- Waits for the end of a step that began at a number of link losses. The bound is given in
milliseconds. -/
def settle (bound : Nat) (step : String) (epoch : Nat) (targets : List Phase) :
    Procedure (Except Failure Unit) := do
  match ← Procedure.wait bound targets with
  | .reached .fail =>
    let current ← Procedure.lossCount
    let error ← Procedure.takeError
    if current = epoch then
      return .error (.transport step (error.getD "operation failed"))
    else
      return .error (.linkLost step)
  | .reached _ => return .ok ()
  | .timedOut =>
    Procedure.setPhase .fail
    Procedure.count (.stepTimeout step)
    return .error (.timeout step bound)
  | .cancelled => return .error .cancelled

/-- Writes a value and waits until the transport took it. -/
def write (bound : Nat) (step : String) (characteristic : Characteristic) (value : Bytes) :
    Attempt Unit :=
  ExceptT.mk do
    Procedure.reset
    let epoch ← Procedure.lossCount
    let completion ← Procedure.queue
    Procedure.write characteristic value completion
    let settled ← settle bound step epoch [.sent, .fail]
    Procedure.reset
    return settled

/-- Reads an endpoint and gives the bytes that the transport brought. -/
def read (bound : Nat) (step : String) (characteristic : Characteristic) : Attempt Bytes :=
  ExceptT.mk do
    Procedure.reset
    let epoch ← Procedure.lossCount
    let completion ← Procedure.queue
    Procedure.read characteristic completion
    let settled ← settle bound step epoch [.success, .fail]
    let response ← Procedure.takeResponse
    Procedure.reset
    match settled, response with
    | .error failure, _ => return .error failure
    | .ok _, none => return .error (.protocol (step ++ ": no response data"))
    | .ok _, some bytes => return .ok bytes

end Step

end MeshLight.Session
