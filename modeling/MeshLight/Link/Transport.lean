import MeshLight.Link.Characteristic
import MeshLight.Link.Tracker

/-!
# Transports

A transport takes writes and reads and completes them through the completion that it is given, at
once, later or never. During a call anything may happen to the tracker, since completions, losses of
the link and cancellation come from other parties. A transport is therefore a change of its own
state and of the tracker together.

A call has two ends. It is taken, keeps its caller for a while, and then returns; a transport may
act at either end, and most act at the first one only and keep nobody.
-/

namespace MeshLight.Link

/-- A way to reach the endpoints of a light, with a state of its own. A call that was just taken
keeps its caller for the latency, in milliseconds, and does something more when it returns. -/
structure Transport (State : Type) where
  write : Characteristic → Bytes → Completion → State × Tracker → State × Tracker
  read : Characteristic → Completion → State × Tracker → State × Tracker
  disconnect : State × Tracker → State × Tracker
  latency : State → Nat := fun _ => 0
  callReturn : State × Tracker → State × Tracker := id

end MeshLight.Link
