import MeshLight.Proofs.Link.History
import MeshLight.Proofs.Link.Script
import MeshLight.Proofs.Session.Finish
import MeshLight.Proofs.Session.Pace

/-!
# The course of a worker

What happens to a worker, in any order: it does its next step or runs into a bound, callers submit
requests and shut it down, the link reports its changes, and whoever shares the tracker uses any of
its operations, between two steps of the worker and in the middle of an operation alike.

A tracker that was torn down stays so, and no course brings a key back. A worker that is torn down
while it carries nothing out has done all that it will ever do: the next message stops it, and no
course of it makes a call, reports anything or leaves a result.
-/

namespace MeshLight.Session

open Link (Completion ConnectionEvent Contact Disturbance Operation Script Shared Tracker Transport
  Turn)

/-! ## Torn trackers -/

/-- A tracker that was torn down, and without a key. -/
structure Torn (tracker : Tracker) : Prop where
  cancelled : tracker.cancelled = true
  keyless : tracker.key = none

namespace Torn

variable {tracker : Tracker}

/-- Tearing a tracker down drops its key. -/
theorem cancel (tracker : Tracker) : Torn tracker.cancel :=
  ⟨rfl, rfl⟩

/-- A torn tracker ends every wait. -/
theorem verdict (torn : Torn tracker) (targets : List Link.Phase) :
    tracker.verdict? targets = some .cancelled := by
  simp [Tracker.verdict?, torn.cancelled]

/-- No operation brings a key back. An operation that decides about the slot either drops the key,
or it is an installation, which a torn tracker refuses. -/
theorem apply (torn : Torn tracker) (handed : List Completion) (operation : Operation) :
    Torn (operation.apply ⟨tracker, handed⟩).tracker := by
  cases decided : operation.decides tracker with
  | false =>
    have undecided : operation.decides (Shared.mk tracker handed).tracker = false := decided
    obtain ⟨key, -, cancelled, -, -⟩ := Operation.apply_undecided undecided
    exact ⟨cancelled.trans torn.cancelled, key.trans torn.keyless⟩
  | true =>
    cases operation with
    | installKey key epoch =>
      simp [Operation.decides, Tracker.installKey, torn.cancelled] at decided
    | clearKey => exact ⟨torn.cancelled, rfl⟩
    | linkLost =>
      simp only [Operation.apply, Tracker.linkLost]
      split
      · exact ⟨torn.cancelled, rfl⟩
      · exact ⟨torn.cancelled, rfl⟩
    | cancel => exact .cancel tracker
    | _ => cases decided

/-- No disturbance brings a key back. -/
theorem disturb (torn : Torn tracker) (disturbances : List Disturbance) :
    Torn (tracker.disturb disturbances) :=
  ⟨by simp [torn.cancelled], by simp [torn.keyless]⟩

/-- No turn brings a key back. -/
theorem turn (torn : Torn tracker) (turn : Turn) (completion : Completion) :
    Torn (turn.apply completion tracker) := by
  obtain ⟨-, -, key, cancelled⟩ := turn.apply_frame completion tracker
  exact ⟨by simp [cancelled, torn.cancelled], by simp [key, torn.keyless]⟩

/-- No action of a controller brings a key back. -/
theorem perform {world : World (List Contact)} (torn : Torn world.tracker) (script : Script)
    (action : Action) : Torn (action.perform script.transport world).2.tracker := by
  cases action with
  | installKey key epoch => exact torn.apply [] (.installKey key epoch)
  | clearKey => exact ⟨torn.cancelled, rfl⟩
  | write characteristic value completion => exact torn.turn _ completion
  | read characteristic completion => exact torn.turn _ completion
  | disconnect => exact torn.disturb _
  | _ => exact ⟨torn.cancelled, torn.keyless⟩

end Torn

/-! ## Courses -/

/-- Something that happens to a worker. It does its next step, if there is one, or the wait under
way runs into its bound, if nothing has decided it. Whoever shares the tracker uses it, and has some
completions for that. Somebody submits a request, the link reports a change, or the worker is shut
down. -/
inductive Occurrence where
  | step
  | expire
  | share (operation : Operation) (handed : List Completion)
  | submit (request : Request)
  | notice (event : ConnectionEvent)
  | shutDown

namespace Worker

variable {State : Type}

/-- The worker after an occurrence. -/
def occur (transport : Transport State) (worker : Worker State) : Occurrence → Worker State
  | .step => (worker.step? transport).getD worker
  | .expire => worker.expire?.getD worker
  | .share operation handed =>
    { worker with
      world := worker.world.withTracker (operation.apply ⟨worker.tracker, handed⟩).tracker }
  | .submit request => (worker.submit request).2
  | .notice event => worker.notice event
  | .shutDown => worker.shutDown

/-- The worker after occurrences, first one first. -/
def course (transport : Transport State) (worker : Worker State)
    (occurrences : List Occurrence) : Worker State :=
  occurrences.foldl (occur transport) worker

/-- Beginning a message touches nothing that is shared. -/
@[simp] theorem begin_world (message : Message) (worker : Worker State) :
    (worker.begin message).world = worker.world := by
  unfold Worker.begin
  split
  · rfl
  · cases message with
    | request ticket content => cases content <;> rfl
    | ready => rfl
    | shutdown => rfl

/-- Nor does putting a message into the queue. -/
@[simp] theorem enqueue_world (message : Message) (worker : Worker State) :
    (worker.enqueue message).world = worker.world := by
  unfold Worker.enqueue
  split <;> rfl

/-- A worker that has not ended takes messages into its queue. -/
theorem enqueue_alive {worker : Worker State} (alive : worker.activity ≠ .stopped)
    (message : Message) :
    worker.enqueue message = { worker with queue := worker.queue ++ [message] } := by
  unfold Worker.enqueue
  split
  · rename_i stopped
    exact absurd stopped alive
  · rfl

/-- What a report of the link does to the tracker: it records a loss, or nothing. -/
theorem notice_tracker (event : ConnectionEvent) (worker : Worker State) :
    (worker.notice event).tracker = worker.tracker ∨
      (worker.notice event).tracker = worker.tracker.linkLost.2 := by
  unfold Worker.notice
  split
  · dsimp only
    split
    · exact .inr rfl
    · exact .inr rfl
  · split
    · exact .inl (by simp [tracker])
    · exact .inl rfl

/-- Whatever happens to a worker, a torn tracker stays torn, if the actions of the worker leave it
so. -/
theorem occur_torn {transport : Transport State}
    (keeps : ∀ (action : Action) {world : World State}, Torn world.tracker →
      Torn (action.perform transport world).2.tracker)
    {worker : Worker State} (torn : Torn worker.tracker) (occurrence : Occurrence) :
    Torn (worker.occur transport occurrence).tracker := by
  cases occurrence with
  | step =>
    cases stepped : worker.step? transport with
    | none =>
      simp only [occur, stepped]
      exact torn
    | some later =>
      simp only [occur, stepped, Option.getD_some]
      cases step_does stepped with
      | begin message queue => simpa [tracker] using torn
      | conclude ticket result controller => exact torn
      | act ticket action next => exact keeps action torn
      | decide ticket targets next verdict => exact torn
  | expire =>
    simp only [occur, expire?]
    split
    · split
      · exact torn
      · exact torn
    · exact torn
  | share operation handed => exact torn.apply handed operation
  | submit request => simpa [occur, submit, tracker] using torn
  | notice event =>
    rcases notice_tracker event worker with same | lost
    · exact same ▸ torn
    · exact lost ▸ torn.apply [] .linkLost
  | shutDown =>
    simp only [occur, shutDown, tracker, enqueue_world]
    exact .cancel worker.tracker

/-- No course of a worker brings the key back. -/
theorem course_torn {script : Script} {worker : Worker (List Contact)} (torn : Torn worker.tracker)
    (occurrences : List Occurrence) :
    Torn (worker.course script.transport occurrences).tracker := by
  induction occurrences generalizing worker with
  | nil => exact torn
  | cons occurrence occurrences inductionHypothesis =>
    exact inductionHypothesis
      (occur_torn (fun action _ torn => torn.perform script action) torn occurrence)

/-! ## Workers without work -/

/-- A worker that was torn down and carries nothing out. -/
structure Finished (worker : Worker State) : Prop where
  torn : Torn worker.tracker
  free : worker.activity = .idle ∨ worker.activity = .stopped

/-- What is left alone: no call is made, nothing is reported and counted, no result is left, and the
controller stays as it is. -/
structure LeavesAlone (worker later : Worker State) : Prop where
  transport : later.world.transport = worker.world.transport
  events : later.world.events = worker.world.events
  counts : later.world.counts = worker.world.counts
  controller : later.controller = worker.controller
  results : later.results = worker.results

/-- Leaving alone, twice. -/
theorem LeavesAlone.trans {worker middle later : Worker State} (one : LeavesAlone worker middle)
    (two : LeavesAlone middle later) : LeavesAlone worker later :=
  ⟨two.transport.trans one.transport, two.events.trans one.events, two.counts.trans one.counts,
    two.controller.trans one.controller, two.results.trans one.results⟩

/-- Putting a message into the queue leaves everything else alone. -/
theorem enqueue_alone (message : Message) (worker : Worker State) :
    LeavesAlone worker (worker.enqueue message) := by
  unfold Worker.enqueue
  split <;> exact ⟨rfl, rfl, rfl, rfl, rfl⟩

variable (transport : Transport State) {worker : Worker State}

/-- A worker that is torn down stops when it takes a message. -/
theorem Finished.begin (finished : worker.Finished) (message : Message) :
    worker.begin message = worker.stop := by
  have torn : worker.tracker.cancelled = true := finished.torn.cancelled
  simp [Worker.begin, torn]

/-- A message for a worker without work changes only the queue. -/
theorem LeavesAlone.enqueue {middle : Worker State} (alone : LeavesAlone worker middle)
    (finished : middle.Finished) (message : Message) :
    (middle.enqueue message).Finished ∧ LeavesAlone worker (middle.enqueue message) := by
  refine ⟨?_, alone.trans (enqueue_alone message middle)⟩
  unfold Worker.enqueue
  split
  · exact finished
  · exact ⟨finished.torn, finished.free⟩

/-- Whatever happens to a worker without work, it has none and leaves everything alone. -/
theorem Finished.occur (finished : worker.Finished) (occurrence : Occurrence) :
    (worker.occur transport occurrence).Finished ∧
      LeavesAlone worker (worker.occur transport occurrence) := by
  obtain ⟨torn, free⟩ := finished
  cases occurrence with
  | step =>
    cases stepped : worker.step? transport with
    | none =>
      simp only [Worker.occur, stepped]
      exact ⟨⟨torn, free⟩, ⟨rfl, rfl, rfl, rfl, rfl⟩⟩
    | some later =>
      simp only [Worker.occur, stepped, Option.getD_some]
      cases step_does stepped with
      | begin message queue idle =>
        have taken : ({ worker with queue } : Worker State).Finished := ⟨torn, .inl idle⟩
        rw [taken.begin]
        exact ⟨⟨torn, .inr rfl⟩, ⟨rfl, rfl, rfl, rfl, rfl⟩⟩
      | conclude ticket result controller busy => simp [busy] at free
      | act ticket action next busy => simp [busy] at free
      | decide ticket targets next verdict busy => simp [busy] at free
  | expire =>
    have unexpired : worker.expire? = none := by
      rcases free with idle | stopped
      · simp [expire?, idle]
      · simp [expire?, stopped]
    simp only [Worker.occur, unexpired]
    exact ⟨⟨torn, free⟩, ⟨rfl, rfl, rfl, rfl, rfl⟩⟩
  | share operation handed =>
    exact ⟨⟨torn.apply handed operation, free⟩, ⟨rfl, rfl, rfl, rfl, rfl⟩⟩
  | submit request =>
    have numbered : LeavesAlone worker { worker with nextTicket := worker.nextTicket + 1 } :=
      ⟨rfl, rfl, rfl, rfl, rfl⟩
    exact numbered.enqueue ⟨torn, free⟩ (.request worker.nextTicket request)
  | notice event =>
    have keyless : worker.world.tracker.key = none := torn.keyless
    have lost : Torn worker.world.tracker.linkLost.2 := torn.apply [] .linkLost
    simp only [Worker.occur, Worker.notice]
    split
    · simp only [World.onTracker, Tracker.linkLost, keyless] at lost ⊢
      exact ⟨⟨lost, free⟩, ⟨rfl, rfl, rfl, rfl, rfl⟩⟩
    · split
      · have asked : LeavesAlone worker { worker with pairQueued := true } :=
          ⟨rfl, rfl, rfl, rfl, rfl⟩
        exact asked.enqueue ⟨torn, free⟩ .ready
      · exact ⟨⟨torn, free⟩, ⟨rfl, rfl, rfl, rfl, rfl⟩⟩
  | shutDown =>
    have cancelled :
        LeavesAlone worker (worker.onTracker fun tracker => ((), tracker.cancel)).2 :=
      ⟨rfl, rfl, rfl, rfl, rfl⟩
    exact cancelled.enqueue ⟨.cancel worker.tracker, free⟩ .shutdown

/-- A worker without work never has any again. -/
theorem Finished.course (finished : worker.Finished) (occurrences : List Occurrence) :
    (worker.course transport occurrences).Finished ∧
      LeavesAlone worker (worker.course transport occurrences) := by
  induction occurrences generalizing worker with
  | nil => exact ⟨finished, ⟨rfl, rfl, rfl, rfl, rfl⟩⟩
  | cons occurrence occurrences inductionHypothesis =>
    obtain ⟨kept, alone⟩ := finished.occur transport occurrence
    obtain ⟨still, further⟩ := inductionHypothesis kept
    exact ⟨still, alone.trans further⟩

/-- The next message that it takes stops it. -/
theorem Finished.exits (finished : worker.Finished) (idle : worker.activity = .idle)
    (queued : worker.queue ≠ []) : worker.step? transport = some worker.stop := by
  obtain ⟨message, queue, queueIs⟩ := List.exists_cons_of_ne_nil queued
  have taken : ({ worker with queue } : Worker State).Finished := ⟨finished.torn, .inl idle⟩
  have stepped : worker.step? transport =
      some (({ worker with queue } : Worker State).begin message) := by
    simp only [step?, idle, queueIs]
  rw [stepped, taken.begin]
  rfl

/-- A worker that has ended does not begin anew. -/
theorem course_stopped (stopped : worker.activity = .stopped) (occurrences : List Occurrence) :
    (worker.course transport occurrences).activity = .stopped := by
  induction occurrences generalizing worker with
  | nil => exact stopped
  | cons occurrence occurrences inductionHypothesis =>
    refine inductionHypothesis ?_
    cases occurrence with
    | step => simp [Worker.occur, step?, stopped]
    | expire => simp [Worker.occur, expire?, stopped]
    | share operation handed => exact stopped
    | submit request => simp [Worker.occur, submit, Worker.enqueue, stopped]
    | notice event =>
      simp only [Worker.occur, Worker.notice]
      split
      · split
        · exact stopped
        · exact stopped
      · split
        · simp [Worker.enqueue, stopped]
        · exact stopped
    | shutDown => simp [Worker.occur, shutDown, onTracker, Worker.enqueue, stopped]

/-! ## What an occurrence does -/

/-- What an occurrence does to a worker. A worker goes on by itself only in a step or at the end of
a wait, and not even then if there is nothing to go on with. A request is put into the queue under
the next ticket. A lost link is counted and reported if it had a key, and only recorded otherwise. A
ready link sets the mark and puts a message for it into the queue, unless the mark is set. A worker
that is shut down finds its tracker torn down, and a message to stop in its queue. -/
inductive Occurs (transport : Transport State) (worker : Worker State) :
    Occurrence → Worker State → Prop where
  | unstepped (stuck : worker.step? transport = none) : Occurs transport worker .step worker
  | stepped {later : Worker State} (stepped : worker.step? transport = some later)
    (does : Does transport worker later) : Occurs transport worker .step later
  | unexpired (stuck : worker.expire? = none) : Occurs transport worker .expire worker
  | expired (ticket : Option Nat) (targets : List Link.Phase)
    (next : Link.Verdict → Procedure (Result × Controller)) {bound spent : Nat}
    (busy : worker.activity = .busy ticket (.await bound targets next) spent)
    (undecided : worker.expire?.isSome) :
    Occurs transport worker .expire { worker with activity := .busy ticket (next .timedOut) 0 }
  | shared (operation : Operation) (handed : List Completion) :
    Occurs transport worker (.share operation handed) { worker with
      world := worker.world.withTracker (operation.apply ⟨worker.tracker, handed⟩).tracker }
  | submitted (request : Request) :
    Occurs transport worker (.submit request)
      (({ worker with nextTicket := worker.nextTicket + 1 } : Worker State).enqueue
        (.request worker.nextTicket request))
  | dropped (held : worker.tracker.key.isSome = true) :
    Occurs transport worker (.notice .disconnected) { worker with
      world := ((worker.world.withTracker worker.tracker.linkLost.2).count .disconnect).emit
        .disconnected }
  | missed (absent : worker.tracker.key = none) :
    Occurs transport worker (.notice .disconnected) { worker with
      world := worker.world.withTracker worker.tracker.linkLost.2 }
  | asked (event : ConnectionEvent) (ready : event.isReady = true)
    (unmarked : worker.pairQueued = false) :
    Occurs transport worker (.notice event)
      (({ worker with pairQueued := true } : Worker State).enqueue .ready)
  | ignored (event : ConnectionEvent) (marked : event.isReady = true → worker.pairQueued = true) :
    Occurs transport worker (.notice event) worker
  | shut : Occurs transport worker .shutDown
      (({ worker with world := worker.world.withTracker worker.tracker.cancel } :
        Worker State).enqueue .shutdown)

/-- An occurrence does one of these. -/
theorem occurs {transport : Transport State} {occurrence : Occurrence} {later : Worker State}
    (happened : worker.occur transport occurrence = later) :
    Occurs transport worker occurrence later := by
  subst happened
  cases occurrence with
  | step =>
    cases stepped : worker.step? transport with
    | none =>
      simp only [Worker.occur, stepped]
      exact .unstepped stepped
    | some later =>
      simp only [Worker.occur, stepped, Option.getD_some]
      exact .stepped stepped (step_does stepped)
  | expire =>
    cases expired : worker.expire? with
    | none =>
      simp only [Worker.occur, expired]
      exact .unexpired expired
    | some later =>
      simp only [Worker.occur, expired, Option.getD_some]
      have some : worker.expire?.isSome := by rw [expired]; rfl
      unfold expire? at expired
      split at expired
      · rename_i ticket bound targets next spent busy
        split at expired
        · cases expired
        · exact Option.some.inj expired ▸ .expired ticket targets next busy some
      · cases expired
  | share operation handed => exact .shared operation handed
  | submit request => exact .submitted request
  | notice event =>
    simp only [Worker.occur, Worker.notice]
    split
    · split
      · rename_i held
        exact .dropped held
      · rename_i absent
        exact .missed (Option.not_isSome_iff_eq_none.mp absent)
    · rename_i other
      split
      · rename_i asks
        exact .asked _ asks.1 (by simpa using asks.2)
      · rename_i quiet
        exact .ignored _ fun ready => by simpa [ready] using quiet
  | shutDown => exact .shut

end Worker

end MeshLight.Session
