import MeshLight.Session.Failure

/-!
# Events

What a session reports while it runs, and the log line that each report becomes. Failures are
warnings; a status names its sender and payload; everything else is shown whole.
-/

namespace MeshLight.Report

open Session (Outcome)

/-- Something that happened to the session of a light. A disconnection is a session key that was
dropped with its link; a command is sent when the transport took its frame; a status is received
when it passed its check; and a mesh is updated when the light took the new credentials. -/
inductive Event where
  | pairingStarted
  | pairingFinished (outcome : Outcome)
  | disconnected
  | commandSent (opcode : UInt8)
  | commandFailed (opcode : UInt8) (reason : String)
  | statusReceived (source : UInt16) (payload : Bytes)
  | meshUpdated (name : String)
  deriving Repr, DecidableEq

/-- How loudly a line is logged: progress, or a failure. -/
inductive Level where
  | info
  | warning
  deriving Repr, DecidableEq

/-- The value of a field in a log line. -/
inductive FieldValue where
  | text (content : String)
  | number (value : Nat)
  deriving Repr, DecidableEq

/-- A log line: a level and named fields in order. -/
structure Line where
  level : Level
  fields : List (String × FieldValue)
  deriving Repr, DecidableEq

namespace Event

/-- The stable name of an event. -/
def name : Event → String
  | .pairingStarted => "pairing_started"
  | .pairingFinished _ => "pairing_finished"
  | .disconnected => "disconnected"
  | .commandSent _ => "command_sent"
  | .commandFailed _ _ => "command_failed"
  | .statusReceived _ _ => "status_received"
  | .meshUpdated _ => "mesh_updated"

/-- The form shown for inspection. -/
def shown : Event → String
  | .pairingStarted => "PairingStarted"
  | .pairingFinished outcome => "PairingFinished \x7b outcome: " ++ outcome.shown ++ " \x7d"
  | .disconnected => "Disconnected"
  | .commandSent opcode => s!"CommandSent \x7b opcode: {opcode} \x7d"
  | .commandFailed opcode reason =>
    s!"CommandFailed \x7b opcode: {opcode}, reason: " ++ Quoted.text reason ++ " \x7d"
  | .statusReceived source payload =>
    s!"StatusReceived \x7b src: {source}, payload: ["
      ++ String.intercalate ", " (payload.map toString) ++ "] \x7d"
  | .meshUpdated name => "MeshUpdated \x7b name: " ++ Quoted.text name ++ " \x7d"

/-- The line logged for an event of a light. -/
def line (address : Address) (event : Event) : Line :=
  let common := [("device", FieldValue.text address.text), ("event", .text event.name)]
  let told (level : Level) (words : String) (details : List (String × FieldValue)) : Line :=
    { level, fields := common ++ details ++ [("message", .text words)] }
  match event with
  | .commandFailed opcode reason =>
    told .warning "Command failed"
      [("opcode", .text (Frame.byteName opcode)), ("reason", .text reason)]
  | .statusReceived source payload =>
    told .info "Status received"
      [("src", .number source.toNat), ("payload", .text (Hex.encode payload))]
  | .pairingFinished outcome =>
    if outcome = .established then
      told .info "Session event" [("detail", .text event.shown)]
    else told .warning "Pairing failed" [("outcome", .text outcome.shown)]
  | _ => told .info "Session event" [("detail", .text event.shown)]

end Event

/-- Events with the light that each belongs to, oldest first. -/
abbrev Journal := List (Address × Event)

end MeshLight.Report
