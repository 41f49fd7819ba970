import MeshLight.Session.Clock
import MeshLight.Session.Request

/-!
# Workers

All operations on a light run on one worker, one at a time and in the order in which they were
submitted. Callers put messages into its queue and hold tickets; the worker takes the next message
when it has ended the last one, and leaves a result under its ticket. A ready link asks for one
pairing, however often it is reported before the worker gets to it.

A worker that finds its tracker cancelled stops: what is still queued is dropped, and whoever holds
a ticket without a result is told that the worker stopped.
-/

namespace MeshLight.Session

open Link (Tracker Transport ConnectionEvent)
open Report (Event Count)

/-- What a worker takes from its queue: a request and the ticket that its result is left under, a
ready link, or the order to stop. -/
inductive Message where
  | request (ticket : Nat) (content : Request)
  | ready
  | shutdown

/-- What a worker is doing. It waits for a message, has ended, or carries out an operation: then
there is the ticket if somebody holds one, the rest of the operation, and how much has passed of the
wait or the call that the rest begins with, in milliseconds. -/
inductive Activity where
  | idle
  | busy (ticket : Option Nat) (rest : Procedure (Result × Controller)) (spent : Nat)
  | stopped

/-- The worker of one light, with its queue and everything that its handle shares with it. The
controller is as it is between two operations, and commands are addressed to the mesh id. The mark
`pairQueued` stands while a pairing for a ready link is on its way to the worker. Messages not taken
yet and results that nobody has collected yet are oldest first. -/
structure Worker (State : Type) where
  controller : Controller
  meshId : UInt16
  world : World State
  pairQueued : Bool := false
  queue : List Message := []
  activity : Activity := .idle
  nextTicket : Nat := 0
  results : List (Nat × Result) := []

namespace Worker

variable {State : Type}

/-- A worker without a session. -/
def start (settings : Settings) (unseeded : Random.Source) (transport : State) : Worker State :=
  { controller := .ofSettings settings unseeded, meshId := settings.meshId, world := { transport } }

/-- The tracker that the worker shares. -/
def tracker (worker : Worker State) : Tracker :=
  worker.world.tracker

/-- Whether there is a session key. -/
def isEstablished (worker : Worker State) : Bool :=
  worker.tracker.key.isSome

/-- The form of the handle shown for inspection. -/
def shown (worker : Worker State) : String :=
  "DeviceHandle \x7b address: " ++ worker.controller.address.shown ++ ", established: "
    ++ toString worker.isEstablished ++ ", state: " ++ worker.tracker.phase.shown ++ " \x7d"

/-- Ends the worker and drops what is queued. -/
def stop (worker : Worker State) : Worker State :=
  { worker with activity := .stopped, queue := [] }

/-- Begins a message. A cancelled tracker stops the worker instead. -/
def begin (message : Message) (worker : Worker State) : Worker State :=
  if worker.tracker.cancelled then worker.stop
  else
    match message with
    | .request ticket .pair =>
      { worker with
        pairQueued := false
        activity := .busy (some ticket) (worker.controller.perform worker.meshId .pair) 0 }
    | .request ticket content =>
      { worker with
        activity := .busy (some ticket) (worker.controller.perform worker.meshId content) 0 }
    | .ready =>
      { worker with pairQueued := false, activity := .busy none worker.controller.greet 0 }
    | .shutdown => worker.stop

/-- Ends an operation: keeps the controller and leaves the result under its ticket. -/
def conclude (ticket : Option Nat) (result : Result) (controller : Controller)
    (worker : Worker State) : Worker State :=
  { worker with
    controller
    activity := .idle
    results :=
      match ticket with
      | some ticket => worker.results ++ [(ticket, result)]
      | none => worker.results }

/-- One step of the worker, however long it takes: it begins a message, performs an action, goes on
after a wait that is decided, or ends an operation. There is none while it waits or after it has
stopped. -/
def step? (transport : Transport State) (worker : Worker State) : Option (Worker State) :=
  match worker.activity with
  | .idle =>
    match worker.queue with
    | [] => none
    | message :: queue => some ({ worker with queue }.begin message)
  | .busy ticket (.done (result, controller)) _ => some (worker.conclude ticket result controller)
  | .busy ticket (.act action next) _ =>
    let (reply, world) := action.perform transport worker.world
    some { worker with world, activity := .busy ticket (next reply) 0 }
  | .busy ticket (.await _ targets next) _ =>
    (worker.tracker.verdict? targets).map fun verdict =>
      { worker with activity := .busy ticket (next verdict) 0 }
  | .stopped => none

/-- Lets the wait under way run into its bound, unless there is none or something has decided it. -/
def expire? (worker : Worker State) : Option (Worker State) :=
  match worker.activity with
  | .busy ticket (.await _ targets next) _ =>
    if (worker.tracker.verdict? targets).isSome then none
    else some { worker with activity := .busy ticket (next .timedOut) 0 }
  | _ => none

/-- Goes on with the operation under way for a span, and no longer than needed. Gives what is left
of the span. -/
def advance (transport : Transport State) (enough : Worker State → Bool) (span : Span)
    (worker : Worker State) : Span × Worker State :=
  match worker.activity with
  | .busy ticket rest spent =>
    let progress :=
      rest.advance transport (fun world => enough { worker with world }) spent span worker.world
    let moved := { worker with world := progress.world }
    (progress.left,
      match progress.rest with
      | .done (result, controller) => moved.conclude ticket result controller
      | rest => { moved with activity := .busy ticket rest progress.spent })
  | _ => (span, worker)

/-- Carries out queued messages for a span while the worker is free to take them. -/
def drain (transport : Transport State) (enough : Worker State → Bool) :
    List Message → Span → Worker State → Worker State
  | message :: later, span, worker =>
    match worker.activity with
    | .idle =>
      let (left, advanced) :=
        ({ worker with queue := later }.begin message).advance transport enough span
      drain transport enough later left advanced
    | _ => worker
  | [], _, worker => worker

/-- Lets a span pass, or less if less is enough. What takes no time happens in any case. -/
def pass (transport : Transport State) (enough : Worker State → Bool) (span : Span)
    (worker : Worker State) : Worker State :=
  let (left, advanced) := worker.advance transport enough span
  drain transport enough advanced.queue left advanced

/-- Lets the worker go on as far as it can in no time: until its queue is empty, it must wait, or it
stops. -/
def settle (transport : Transport State) (worker : Worker State) : Worker State :=
  worker.pass transport (fun _ => false) .instant

/-- Lets time pass until that is enough or nothing more can happen. -/
def waitUntil (transport : Transport State) (enough : Worker State → Bool)
    (worker : Worker State) : Worker State :=
  worker.pass transport enough none

/-- Whether the worker has ended all that it was asked for. -/
def isQuiet (worker : Worker State) : Bool :=
  match worker.activity with
  | .idle => worker.queue.isEmpty
  | .busy .. => false
  | .stopped => true

/-- Appends a message; a worker that stopped takes none. -/
def enqueue (message : Message) (worker : Worker State) : Worker State :=
  match worker.activity with
  | .stopped => worker
  | _ => { worker with queue := worker.queue ++ [message] }

/-- Submits a request and hands out the ticket for its result. -/
def submit (request : Request) (worker : Worker State) : Nat × Worker State :=
  let ticket := worker.nextTicket
  (ticket, { worker with nextTicket := ticket + 1 }.enqueue (.request ticket request))

/-- Whether the result of a ticket may still come. -/
def owes (ticket : Nat) (worker : Worker State) : Bool :=
  let isUnderWay :=
    match worker.activity with
    | .busy (some current) _ _ => current == ticket
    | _ => false
  let isQueued := worker.queue.any fun message =>
    match message with
    | .request queued _ => queued == ticket
    | _ => false
  isUnderWay || isQueued

/-- Collects the result of a ticket, once. A ticket whose result can no longer come gives the
failure of a stopped worker. -/
def collect (ticket : Nat) (worker : Worker State) : Option Result × Worker State :=
  match worker.results.lookup ticket with
  | some result =>
    (some result, { worker with results := worker.results.filter fun entry => entry.1 != ticket })
  | none =>
    if worker.owes ticket then (none, worker) else (some (.error .workerStopped), worker)

/-- Waits for the result of a ticket. -/
def waitFor (transport : Transport State) (ticket : Nat) (worker : Worker State) : Worker State :=
  worker.waitUntil transport fun current => !current.owes ticket

/-- Waits for the result of a ticket, but no longer than a number of milliseconds. -/
def waitAtMost (transport : Transport State) (length ticket : Nat) (worker : Worker State) :
    Worker State :=
  worker.pass transport (fun current => !current.owes ticket) (some length)

/-- Waits until the worker has ended all that it was asked for. -/
def waitQuiet (transport : Transport State) (worker : Worker State) : Worker State :=
  worker.waitUntil transport isQuiet

/-- Takes a change of the connection. A lost link is recorded at once; a ready link asks for a
pairing unless one is on its way. -/
def notice (event : ConnectionEvent) (worker : Worker State) : Worker State :=
  match event with
  | .disconnected =>
    let (had, world) := worker.world.onTracker Tracker.linkLost
    if had then { worker with world := (world.count .disconnect).emit .disconnected }
    else { worker with world }
  | event =>
    if event.isReady ∧ !worker.pairQueued then { worker with pairQueued := true }.enqueue .ready
    else worker

/-- Lets another party act on the tracker. -/
def onTracker {Reply : Type} (change : Tracker → Reply × Tracker) (worker : Worker State) :
    Reply × Worker State :=
  let (reply, world) := worker.world.onTracker change
  (reply, { worker with world })

/-- Tears the tracker down and asks the worker to stop. -/
def shutDown (worker : Worker State) : Worker State :=
  (worker.onTracker fun tracker => ((), tracker.cancel)).2.enqueue .shutdown

end Worker

end MeshLight.Session
