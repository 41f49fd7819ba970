import MeshLight.Link.Transport
import MeshLight.Report.Counter
import MeshLight.Report.Event

/-!
# Procedures

What a controller does to a light is a procedure: a tree of single actions on the tracker, the
transport and the reports, with a branch for each reply. Between two actions other parties may act
on the tracker; a wait is no action, because it can stand still and because its bound may end it.

A procedure is run in a world. `finish` runs it to its end and lets every wait that nothing decides
run into its bound.
-/

namespace MeshLight.Session

open Link (Phase Verdict Completion Tracker Transport Characteristic)
open Report (Event Count)

/-- A single action of a controller. The first ones change or ask the tracker: `queue` marks the
operation as handed to the transport, `lossCount` asks how often the link was lost, and `installKey`
installs a key that was derived at such a number of losses. A write or a read hands something to the
transport, and `callReturn` lets that call return. The last ones drop the link, report an event and
raise a counter. -/
inductive Action where
  | reset
  | setPhase (phase : Phase)
  | queue
  | lossCount
  | takeResponse
  | takeError
  | sessionKey
  | installKey (key : SessionKey) (epoch : Nat)
  | clearKey
  | isCancelled
  | write (characteristic : Characteristic) (value : Bytes) (completion : Completion)
  | read (characteristic : Characteristic) (completion : Completion)
  | callReturn
  | disconnect
  | emit (event : Event)
  | count (count : Count)

/-- The type of the reply to an action. -/
@[reducible]
def Action.Reply : Action → Type
  | .queue => Completion
  | .lossCount => Nat
  | .takeResponse => Option Bytes
  | .takeError => Option String
  | .sessionKey => Option SessionKey
  | .installKey _ _ => Bool
  | .clearKey => Bool
  | .isCancelled => Bool
  | _ => Unit

/-- Actions and waits, each followed by what its reply leads to, up to a result. A wait is for one
of some phases, with a bound in milliseconds. -/
inductive Procedure (Result : Type) where
  | done (result : Result)
  | act (action : Action) (next : action.Reply → Procedure Result)
  | await (bound : Nat) (targets : List Phase) (next : Verdict → Procedure Result)

/-- What a procedure acts on: the tracker, the state of the transport, and the events and counts
reported so far, oldest first. -/
structure World (State : Type) where
  tracker : Tracker := {}
  transport : State
  events : List Event := []
  counts : List Count := []

namespace World

variable {State : Type}

/-- Changes the tracker and keeps the answer. -/
def onTracker {Answer : Type} (change : Tracker → Answer × Tracker) (world : World State) :
    Answer × World State :=
  let (answer, tracker) := change world.tracker
  (answer, { world with tracker })

/-- Changes the transport together with the tracker. -/
def onTransport (change : State × Tracker → State × Tracker) (world : World State) :
    World State :=
  let (transport, tracker) := change (world.transport, world.tracker)
  { world with transport, tracker }

/-- Adds an event. -/
def emit (event : Event) (world : World State) : World State :=
  { world with events := world.events ++ [event] }

/-- Adds a count. -/
def count (count : Count) (world : World State) : World State :=
  { world with counts := world.counts ++ [count] }

end World

/-- Performs an action. -/
def Action.perform {State : Type} (transport : Transport State) :
    (action : Action) → World State → action.Reply × World State
  | .reset, world => world.onTracker fun tracker => ((), tracker.reset)
  | .setPhase phase, world => world.onTracker fun tracker => ((), tracker.setPhase phase)
  | .queue, world => world.onTracker Tracker.queue
  | .lossCount, world => (world.tracker.epoch, world)
  | .takeResponse, world => world.onTracker Tracker.takeResponse
  | .takeError, world => world.onTracker Tracker.takeError
  | .sessionKey, world => (world.tracker.key, world)
  | .installKey key epoch, world => world.onTracker (Tracker.installKey key epoch)
  | .clearKey, world => world.onTracker Tracker.clearKey
  | .isCancelled, world => (world.tracker.cancelled, world)
  | .write characteristic value completion, world =>
    ((), world.onTransport (transport.write characteristic value completion))
  | .read characteristic completion, world =>
    ((), world.onTransport (transport.read characteristic completion))
  | .callReturn, world => ((), world.onTransport transport.callReturn)
  | .disconnect, world => ((), world.onTransport transport.disconnect)
  | .emit event, world => ((), world.emit event)
  | .count counted, world => ((), world.count counted)

namespace Procedure

variable {State First Second Result : Type}

/-- Puts a procedure behind another one. -/
def bind : Procedure First → (First → Procedure Second) → Procedure Second
  | .done result, continuation => continuation result
  | .act action next, continuation => .act action fun reply => (next reply).bind continuation
  | .await bound targets next, continuation =>
    .await bound targets fun verdict => (next verdict).bind continuation

instance : Monad Procedure where
  pure := .done
  bind := Procedure.bind

/-- A single action as a procedure. -/
def of (action : Action) : Procedure action.Reply :=
  .act action .done

/-- Begins a new cycle. -/
def reset : Procedure Unit := of .reset

/-- Stores a phase. -/
def setPhase (phase : Phase) : Procedure Unit := of (.setPhase phase)

/-- Marks the operation as handed to the transport. -/
def queue : Procedure Completion := of .queue

/-- How often the link was lost. -/
def lossCount : Procedure Nat := of .lossCount

/-- Takes the bytes of the last read. -/
def takeResponse : Procedure (Option Bytes) := of .takeResponse

/-- Takes the error of the last failure. -/
def takeError : Procedure (Option String) := of .takeError

/-- The session key, while there is one. -/
def sessionKey : Procedure (Option SessionKey) := of .sessionKey

/-- Installs a key that was derived at a number of link losses. -/
def installKey (key : SessionKey) (epoch : Nat) : Procedure Bool := of (.installKey key epoch)

/-- Drops the session key. -/
def clearKey : Procedure Bool := of .clearKey

/-- Whether the tracker was cancelled. -/
def isCancelled : Procedure Bool := of .isCancelled

/-- Hands a value to the transport, until the call returns. -/
def write (characteristic : Characteristic) (value : Bytes) (completion : Completion) :
    Procedure Unit :=
  .act (.write characteristic value completion) fun _ => of .callReturn

/-- Hands a read to the transport, until the call returns. -/
def read (characteristic : Characteristic) (completion : Completion) : Procedure Unit :=
  .act (.read characteristic completion) fun _ => of .callReturn

/-- Drops the link. -/
def disconnect : Procedure Unit := of .disconnect

/-- Reports an event. -/
def emit (event : Event) : Procedure Unit := of (.emit event)

/-- Raises a counter. -/
def count (counted : Count) : Procedure Unit := of (.count counted)

/-- A single wait as a procedure. -/
def wait (bound : Nat) (targets : List Phase) : Procedure Verdict :=
  .await bound targets .done

/-- Runs a procedure to its end. A wait that nothing decides runs into its bound. -/
def finish (transport : Transport State) : Procedure Result → World State → Result × World State
  | .done result, world => (result, world)
  | .act action next, world =>
    let (reply, changed) := action.perform transport world
    (next reply).finish transport changed
  | .await _ targets next, world =>
    (next ((world.tracker.verdict? targets).getD .timedOut)).finish transport world

end Procedure

end MeshLight.Session
