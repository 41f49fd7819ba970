/-!
# Characteristics

The three endpoints of a light that a controller writes to and reads from.
-/

namespace MeshLight.Link

/-- An endpoint of a light. Pair requests and responses and mesh updates go over `pairing`, status
echo requests and notifications over `status`, and encrypted command frames over `command`. -/
inductive Characteristic where
  | pairing
  | status
  | command
  deriving Repr, DecidableEq

namespace Characteristic

/-- The identifier under which a light offers the endpoint. -/
def uuid : Characteristic → String
  | .pairing => "00010203-0405-0607-0809-0a0b0c0d1914"
  | .status => "00010203-0405-0607-0809-0a0b0c0d1911"
  | .command => "00010203-0405-0607-0809-0a0b0c0d1912"

/-- The name of the endpoint in wordings. -/
def text : Characteristic → String
  | .pairing => "pairing"
  | .status => "status"
  | .command => "command"

/-- The form shown for inspection. -/
def shown : Characteristic → String
  | .pairing => "Pairing"
  | .status => "Status"
  | .command => "Command"

end Characteristic

/-- A change of the connection that is reported to a controller. When a link comes up, its endpoints
may be known at once or become known later. -/
inductive ConnectionEvent where
  | connected (servicesResolved : Bool)
  | servicesResolved
  | disconnected
  deriving Repr, DecidableEq

namespace ConnectionEvent

/-- Whether the endpoints can be used after the event. -/
def isReady : ConnectionEvent → Bool
  | .connected resolved => resolved
  | .servicesResolved => true
  | .disconnected => false

/-- The form shown for inspection. -/
def shown : ConnectionEvent → String
  | .connected resolved => s!"Connected \x7b services_resolved: {resolved} \x7d"
  | .servicesResolved => "ServicesResolved"
  | .disconnected => "Disconnected"

end ConnectionEvent

end MeshLight.Link
