import MeshLight.Identity.Address
import MeshLight.Text.Milliseconds

/-!
# Session failures

Why an operation on a light failed, how the failure is worded and classified, and whether it costs
the connection. Refusals before any traffic leave the link alone, a lost link is gone already, and a
cancelled operation leaves the link to whoever cancelled it.
-/

namespace MeshLight.Session

/-- How a pairing ended. It is established when a key was derived and installed; a link that was
lost counts as a failure of the transport. -/
inductive Outcome where
  | established
  | authFailed
  | protocolError
  | timeout
  | transportFailed
  | cancelled
  deriving Repr, DecidableEq

/-- The form shown for inspection. -/
def Outcome.shown : Outcome → String
  | .established => "Established"
  | .authFailed => "AuthFailed"
  | .protocolError => "ProtocolError"
  | .timeout => "Timeout"
  | .transportFailed => "TransportFailed"
  | .cancelled => "Cancelled"

/-- Why an operation failed. Authentication is a pair request that the light rejected, and a
protocol failure an answer that is not allowed; credentials are refused before any traffic, and a
packet fails if it could not be built or did not pass its checks. The bound of a timeout is in
milliseconds. The worker was torn down while the operation waited, ended before it answered, or
could not be started. -/
inductive Failure where
  | authentication (address : Address)
  | protocol (detail : String)
  | transport (step reason : String)
  | timeout (step : String) (bound : Nat)
  | linkLost (step : String)
  | notEstablished (address : Address)
  | invalidCredentials (fault : Frame.Fault)
  | packet (fault : Frame.Fault)
  | cancelled
  | workerStopped
  | spawn (detail : String)
  deriving Repr, DecidableEq

namespace Failure

/-- The wording of a failure. -/
def message : Failure → String
  | .authentication address =>
    "Authentication rejected by " ++ address.text ++ ": mesh name or password mismatch"
  | .protocol detail => "Protocol error: " ++ detail
  | .transport step reason => s!"Transport error during {step}: {reason}"
  | .timeout step bound => "Timed out after " ++ Milliseconds.text bound ++ " waiting for " ++ step
  | .linkLost step => s!"Link lost during {step}"
  | .notEstablished address => "No session established with " ++ address.text
  | .invalidCredentials fault => "Invalid credentials: " ++ fault.message
  | .packet fault => "Packet error: " ++ fault.message
  | .cancelled => "Operation cancelled"
  | .workerStopped => "Device worker stopped"
  | .spawn detail => s!"Failed to spawn device worker: {detail}"

/-- The short label used in events and counters. -/
def reason : Failure → String
  | .authentication _ => "auth_failed"
  | .protocol _ => "protocol"
  | .transport _ _ => "transport"
  | .timeout _ _ => "timeout"
  | .linkLost _ => "link_lost"
  | .notEstablished _ => "not_established"
  | .invalidCredentials _ => "invalid_credentials"
  | .packet _ => "packet"
  | .cancelled => "cancelled"
  | .workerStopped => "worker_stopped"
  | .spawn _ => "spawn"

/-- Whether the failure tears the connection down. -/
def requiresDisconnect : Failure → Bool
  | .authentication _ => true
  | .protocol _ => true
  | .transport _ _ => true
  | .timeout _ _ => true
  | .packet _ => true
  | _ => false

/-- How a pairing that ends in the failure is classified. -/
def outcome : Failure → Outcome
  | .authentication _ => .authFailed
  | .timeout _ _ => .timeout
  | .transport _ _ => .transportFailed
  | .linkLost _ => .transportFailed
  | .cancelled => .cancelled
  | .workerStopped => .cancelled
  | _ => .protocolError

end Failure

end MeshLight.Session
