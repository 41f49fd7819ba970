import MeshLight.Identity.Session

/-!
# The tracker

One operation at a time is under way on a link. The tracker holds its phase, the bytes or the error
that came back, the session key, and how often the link was lost. It is shared by the side that
waits and the side that completes, so each of its operations is one indivisible step.

Operations run in numbered cycles. A completion belongs to the cycle it was handed out in and
changes nothing once that cycle is over. A key is bound to a number of link losses in the same way:
one that was derived before a loss is never installed after it.
-/

namespace MeshLight.Link

/-- How far the operation under way has come. It is new while nothing is under way, and queued once
it was handed to the transport; a write that was taken is sent, a read that came back is a success,
and an operation that failed or was given up is a failure. -/
inductive Phase where
  | new
  | queued
  | sent
  | success
  | fail
  deriving Repr, DecidableEq

/-- The form shown for inspection. -/
def Phase.shown : Phase → String
  | .new => "New"
  | .queued => "Queued"
  | .sent => "Sent"
  | .success => "Success"
  | .fail => "Fail"

/-- How a bounded wait ended: one of the phases waited for was seen, the bound elapsed first, or the
tracker was cancelled. -/
inductive Verdict where
  | reached (phase : Phase)
  | timedOut
  | cancelled
  deriving Repr, DecidableEq

/-- The right to complete the operation of the cycle in which it was handed out. -/
structure Completion where
  cycle : Nat
  deriving Repr, DecidableEq

/-- What a transport reports through a completion: a write was taken or failed, or a read brought
bytes or failed. -/
inductive Report where
  | written
  | writeFailed (reason : String)
  | delivered (bytes : Bytes)
  | readFailed (reason : String)
  deriving Repr, DecidableEq

namespace Report

/-- The phases in which a report is accepted: a read may also end after it was taken like a
write. -/
def admitted : Report → List Phase
  | .written => [.queued]
  | .writeFailed _ => [.queued]
  | .delivered _ => [.queued, .sent]
  | .readFailed _ => [.queued, .sent]

/-- The phase that a report leads to. -/
def phase : Report → Phase
  | .written => .sent
  | .writeFailed _ => .fail
  | .delivered _ => .success
  | .readFailed _ => .fail

/-- The bytes that a report leaves behind. -/
def response : Report → Option Bytes
  | .delivered bytes => some bytes
  | _ => none

/-- The error that a report leaves behind. -/
def error : Report → Option String
  | .writeFailed reason => some reason
  | .readFailed reason => some reason
  | _ => none

end Report

/-- The state of the link and of the operation under way. The cycle is the number of the current
operation, and the epoch how often the link was lost. The response of a read and the error of a
failure stay until they are taken; a tracker that was torn down is cancelled. -/
structure Tracker where
  phase : Phase := .new
  cycle : Nat := 0
  epoch : Nat := 0
  key : Option SessionKey := none
  response : Option Bytes := none
  error : Option String := none
  cancelled : Bool := false
  deriving Repr, DecidableEq

namespace Tracker

/-- Stores a phase. -/
def setPhase (phase : Phase) (tracker : Tracker) : Tracker :=
  { tracker with phase }

/-- Begins a new cycle with nothing left over from the last one. -/
def reset (tracker : Tracker) : Tracker :=
  { tracker with phase := .new, cycle := tracker.cycle + 1, response := none, error := none }

/-- Marks the operation of this cycle as handed to the transport. -/
def queue (tracker : Tracker) : Completion × Tracker :=
  (⟨tracker.cycle⟩, { tracker with phase := .queued })

/-- Takes the bytes of the last read. -/
def takeResponse (tracker : Tracker) : Option Bytes × Tracker :=
  (tracker.response, { tracker with response := none })

/-- Takes the error of the last failure. -/
def takeError (tracker : Tracker) : Option String × Tracker :=
  (tracker.error, { tracker with error := none })

/-- Installs a key derived while the link had been lost `epoch` times; refused if it was lost since
or if the tracker was cancelled. -/
def installKey (key : SessionKey) (epoch : Nat) (tracker : Tracker) : Bool × Tracker :=
  if tracker.cancelled ∨ tracker.epoch ≠ epoch then (false, tracker)
  else (true, { tracker with key := some key })

/-- Drops the key and tells whether there was one. -/
def clearKey (tracker : Tracker) : Bool × Tracker :=
  (tracker.key.isSome, { tracker with key := none })

/-- Records that the link went away: drops the key, counts the loss and fails an operation that the
transport still has. Tells whether there was a key. -/
def linkLost (tracker : Tracker) : Bool × Tracker :=
  let counted := { tracker with epoch := tracker.epoch + 1, key := none }
  (tracker.key.isSome,
    if tracker.phase = .queued then { counted with phase := .fail, error := some "link lost" }
    else counted)

/-- Tears the tracker down: every wait ends, the key is dropped and no further one is taken. -/
def cancel (tracker : Tracker) : Tracker :=
  { tracker with cancelled := true, key := none, response := none }

/-- Applies a report, if its completion belongs to this cycle and the operation can still take
it. -/
def complete (completion : Completion) (report : Report) (tracker : Tracker) : Bool × Tracker :=
  if tracker.cycle = completion.cycle ∧ tracker.phase ∈ report.admitted then
    (true, { tracker with phase := report.phase, response := report.response,
                          error := report.error })
  else (false, tracker)

/-- How a wait for one of some phases ends now, if it does. Being cancelled comes first. -/
def verdict? (targets : List Phase) (tracker : Tracker) : Option Verdict :=
  if tracker.cancelled then some .cancelled
  else if tracker.phase ∈ targets then some (.reached tracker.phase)
  else none

end Tracker

end MeshLight.Link
