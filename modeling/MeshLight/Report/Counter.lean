import MeshLight.Identity.Address

/-!
# Counters

A session counts what it does. A counter has a name, a description, a unit and the keys of its
labels; a count names the counter by its cause and fills the labels in.
-/

namespace MeshLight.Report

/-- The unit of a counter. There is no other than a number of things. -/
inductive Measure where
  | count
  deriving Repr, DecidableEq

/-- The wording of a unit. -/
def Measure.text : Measure → String
  | .count => "count"

/-- What is declared about a counter: the name under which it is recorded, what it counts, for a
reader, its unit if one is declared, and the keys of the labels of a count. -/
structure Counter where
  name : String
  description : String := ""
  measure : Option Measure := none
  labels : List String := []
  deriving Repr, DecidableEq

/-- A registered description: a name with its unit and its text. -/
def Counter.entry (counter : Counter) : String × Option Measure × String :=
  (counter.name, counter.measure, counter.description)

/-- One thing that is counted. A pairing is established when it installed a key; a command is sent
when the transport took its frame, and may fail with or without traffic; a status counts when it
passed its check; and a disconnect is a session key that was dropped with its link. -/
inductive Count where
  | pairingAttempt
  | pairingEstablished
  | pairingFailure (reason : String)
  | commandSent (opcode : UInt8)
  | commandFailed (reason : String)
  | statusRead
  | stepTimeout (step : String)
  | disconnect
  deriving Repr, DecidableEq

namespace Counter

/-- A counter of things whose counts carry the light and perhaps one more label. -/
def ofDevice (name description : String) (labels : List String) : Counter :=
  { name := "eglo.session." ++ name, description, measure := some .count,
    labels := "device" :: labels }

/-- Pairings begun. -/
def pairingAttempts : Counter :=
  ofDevice "pairing.attempts" "Pairing handshakes started" []

/-- Pairings that installed a key. -/
def pairingEstablished : Counter :=
  ofDevice "pairing.established" "Pairing handshakes that installed a session key" []

/-- Pairings that failed. -/
def pairingFailures : Counter :=
  ofDevice "pairing.failures" "Pairing handshakes that failed" ["reason"]

/-- Command frames taken by the transport. -/
def commandsSent : Counter :=
  ofDevice "commands.sent" "Command frames acknowledged by the transport" ["opcode"]

/-- Commands that failed. -/
def commandsFailed : Counter :=
  ofDevice "commands.failed" "Commands that failed" ["reason"]

/-- Statuses read. -/
def statusReads : Counter :=
  ofDevice "status.reads" "Status notifications read and decoded" []

/-- Steps that ran into their bound. -/
def stepTimeouts : Counter :=
  ofDevice "step.timeouts" "Step waits that hit their bound" ["step"]

/-- Session keys dropped with their link. -/
def disconnects : Counter :=
  ofDevice "disconnects" "Session keys dropped on disconnect" []

/-- Every counter of a session. -/
def all : List Counter :=
  [pairingAttempts, pairingEstablished, pairingFailures, commandsSent, commandsFailed, statusReads,
    stepTimeouts, disconnects]

end Counter

namespace Count

/-- The counter that a count raises. -/
def counter : Count → Counter
  | .pairingAttempt => .pairingAttempts
  | .pairingEstablished => .pairingEstablished
  | .pairingFailure _ => .pairingFailures
  | .commandSent _ => .commandsSent
  | .commandFailed _ => .commandsFailed
  | .statusRead => .statusReads
  | .stepTimeout _ => .stepTimeouts
  | .disconnect => .disconnects

/-- The label of a count besides the light. -/
def detail : Count → List String
  | .pairingFailure reason => [reason]
  | .commandSent opcode => [Frame.byteName opcode]
  | .commandFailed reason => [reason]
  | .stepTimeout step => [step]
  | _ => []

/-- The labels of a count, in the order of their keys. -/
def labels (address : Address) (count : Count) : List (String × String) :=
  count.counter.labels.zip (address.text :: count.detail)

/-- The name of the counter with the labels between braces. -/
def series (address : Address) (count : Count) : String :=
  let written := (count.labels address).map fun label => label.1 ++ "=" ++ label.2
  count.counter.name ++ "\x7b" ++ String.intercalate "," written ++ "\x7d"

/-- Every series that was counted and how often, in the order of the first count. -/
def totals (address : Address) (counts : List Count) : List (String × Nat) :=
  let names := counts.map (series address)
  names.eraseDups.map fun name => (name, names.count name)

end Count

end MeshLight.Report
