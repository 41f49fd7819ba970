import MeshLight.Session.Worker

/-!
# Time and single steps

A worker is run by letting spans of time pass, while its invariants speak of single steps. The two
agree: whatever a worker does while time passes, it does in single steps, and in waits that run into
their bounds. So what single steps preserve, the passing of time preserves, and an operation that is
left alone comes to the end that its run gives.
-/

namespace MeshLight.Session

open Link (Phase Transport Verdict)

variable {State : Type}

namespace Worker

/-- What a step of a worker does: it begins the first message of the queue, ends an operation,
performs an action, or goes on after a wait that is decided. -/
inductive Does (transport : Transport State) (worker : Worker State) : Worker State → Prop where
  | begin (message : Message) (queue : List Message) (idle : worker.activity = .idle)
    (queued : worker.queue = message :: queue) :
    Does transport worker (({ worker with queue } : Worker State).begin message)
  | conclude (ticket : Option Nat) (result : Result) (controller : Controller) {spent : Nat}
    (busy : worker.activity = .busy ticket (.done (result, controller)) spent) :
    Does transport worker (worker.conclude ticket result controller)
  | act (ticket : Option Nat) (action : Action)
    (next : action.Reply → Procedure (Result × Controller)) {spent : Nat}
    (busy : worker.activity = .busy ticket (.act action next) spent) :
    Does transport worker { worker with
      world := (action.perform transport worker.world).2
      activity := .busy ticket (next (action.perform transport worker.world).1) 0 }
  | decide (ticket : Option Nat) (targets : List Phase)
    (next : Verdict → Procedure (Result × Controller)) (verdict : Verdict) {bound spent : Nat}
    (busy : worker.activity = .busy ticket (.await bound targets next) spent)
    (decided : worker.tracker.verdict? targets = some verdict) :
    Does transport worker { worker with activity := .busy ticket (next verdict) 0 }

/-- A step does one of these. -/
theorem step_does {transport : Transport State} {worker later : Worker State}
    (stepped : worker.step? transport = some later) : Does transport worker later := by
  unfold step? at stepped
  split at stepped
  · rename_i idle
    cases queued : worker.queue with
    | nil => simp [queued] at stepped
    | cons message queue =>
      simp only [queued, Option.some.injEq] at stepped
      exact stepped ▸ .begin message queue idle queued
  · rename_i ticket result controller spent busy
    cases stepped
    exact .conclude ticket result controller busy
  · rename_i ticket action next spent busy
    cases stepped
    exact .act ticket action next busy
  · rename_i ticket bound targets next spent busy
    obtain ⟨verdict, decided, rfl⟩ := Option.map_eq_some_iff.mp stepped
    exact .decide ticket targets next verdict busy decided
  · cases stepped

/-- How a worker goes on by itself: by steps, by waits that run into their bounds, and by waiting.
How much of a wait or a call has passed is no step. -/
inductive Proceeds (transport : Transport State) : Worker State → Worker State → Prop where
  | refl (worker : Worker State) : Proceeds transport worker worker
  | step {worker middle later : Worker State} (stepped : worker.step? transport = some middle)
    (rest : Proceeds transport middle later) : Proceeds transport worker later
  | expire {worker middle later : Worker State} (expired : worker.expire? = some middle)
    (rest : Proceeds transport middle later) : Proceeds transport worker later
  | wait {worker later : Worker State} {ticket : Option Nat}
    {operation : Procedure (Result × Controller)} {spent : Nat} (passed : Nat)
    (busy : worker.activity = .busy ticket operation spent)
    (rest : Proceeds transport { worker with activity := .busy ticket operation passed } later) :
    Proceeds transport worker later

variable {transport : Transport State} {worker middle later : Worker State}

/-- Going on twice. -/
theorem Proceeds.trans (one : Proceeds transport worker middle)
    (two : Proceeds transport middle later) : Proceeds transport worker later := by
  induction one with
  | refl worker => exact two
  | step stepped _ inductionHypothesis => exact .step stepped (inductionHypothesis two)
  | expire expired _ inductionHypothesis => exact .expire expired (inductionHypothesis two)
  | wait passed busy _ inductionHypothesis => exact .wait passed busy (inductionHypothesis two)

/-- An operation that is run for a span goes on in single steps.

The induction is on the operation. An action that has the time is a step, a wait that is decided is
a step, and a wait whose bound fits into the span expires; otherwise the worker only waits. -/
theorem operation_proceeds (transport : Transport State) (enough : World State → Bool)
    (operation : Procedure (Result × Controller)) {ticket : Option Nat} {spent : Nat} (span : Span)
    (busy : worker.activity = .busy ticket operation spent) :
    let progress := operation.advance transport enough spent span worker.world
    Proceeds transport worker
      { worker with
        world := progress.world
        activity := .busy ticket progress.rest progress.spent } := by
  induction operation generalizing worker spent span with
  | done result => exact .wait 0 busy (.refl _)
  | act action next inductionHypothesis =>
    simp only [Procedure.advance]
    cases passed : (if enough worker.world = true then Span.instant else span).pass
        (action.duration transport worker.world - spent) with
    | ok left =>
      have stepped : worker.step? transport = some
          { worker with
            world := (action.perform transport worker.world).2
            activity := .busy ticket (next (action.perform transport worker.world).1) 0 } := by
        simp only [step?, busy]
      exact .step stepped (inductionHypothesis _ left rfl)
    | error length => exact .wait (spent + length) busy (.refl _)
  | await bound targets next inductionHypothesis =>
    simp only [Procedure.advance]
    cases decided : worker.world.tracker.verdict? targets with
    | some verdict =>
      have stepped : worker.step? transport =
          some { worker with activity := .busy ticket (next verdict) 0 } := by
        simp only [step?, busy, tracker, decided, Option.map_some]
      exact .step stepped (inductionHypothesis _ span rfl)
    | none =>
      cases passed : (if enough worker.world = true then Span.instant else span).pass
          (bound - spent) with
      | ok left =>
        have expired : worker.expire? =
            some { worker with activity := .busy ticket (next .timedOut) 0 } := by
          simp [expire?, busy, tracker, decided]
        exact .expire expired (inductionHypothesis _ left rfl)
      | error length => exact .wait (spent + length) busy (.refl _)

/-- An operation that is left alone comes to its end in single steps, and every wait that nothing
decides runs into its bound. The induction is on the operation. -/
theorem finish_proceeds (transport : Transport State)
    (operation : Procedure (Result × Controller)) {ticket : Option Nat} {spent : Nat}
    (busy : worker.activity = .busy ticket operation spent) :
    let finished := operation.finish transport worker.world
    Proceeds transport worker
      (({ worker with world := finished.2 } : Worker State).conclude ticket finished.1.1
        finished.1.2) := by
  induction operation generalizing worker spent with
  | done ended =>
    have stepped : worker.step? transport = some (worker.conclude ticket ended.1 ended.2) := by
      simp only [step?, busy]
    exact .step stepped (.refl _)
  | act action next inductionHypothesis =>
    have stepped : worker.step? transport = some
        { worker with
          world := (action.perform transport worker.world).2
          activity := .busy ticket (next (action.perform transport worker.world).1) 0 } := by
      simp only [step?, busy]
    exact .step stepped (inductionHypothesis _ rfl)
  | await bound targets next inductionHypothesis =>
    simp only [Procedure.finish]
    cases decided : worker.world.tracker.verdict? targets with
    | some verdict =>
      have stepped : worker.step? transport =
          some { worker with activity := .busy ticket (next verdict) 0 } := by
        simp only [step?, busy, tracker, decided, Option.map_some]
      exact .step stepped (inductionHypothesis _ rfl)
    | none =>
      have expired : worker.expire? =
          some { worker with activity := .busy ticket (next .timedOut) 0 } := by
        simp [expire?, busy, tracker, decided]
      exact .expire expired (inductionHypothesis _ rfl)

/-- A worker that carries on with an operation for a span goes on in single steps. -/
theorem advance_proceeds (transport : Transport State) (enough : Worker State → Bool) (span : Span)
    (worker : Worker State) :
    Proceeds transport worker (worker.advance transport enough span).2 := by
  unfold advance
  split
  · rename_i ticket operation spent busy
    have proceeds := operation_proceeds transport (fun world => enough { worker with world })
      operation span busy
    dsimp only at proceeds ⊢
    generalize operation.advance transport (fun world => enough { worker with world }) spent span
      worker.world = progress at proceeds
    split
    · rename_i result controller ended
      refine proceeds.trans (.step ?_ (.refl _))
      simp only [step?, ended]
      rfl
    · exact proceeds
  · exact .refl worker

/-- The queue is taken from between two operations only. -/
theorem advance_queue (transport : Transport State) (enough : Worker State → Bool) (span : Span)
    (worker : Worker State) : (worker.advance transport enough span).2.queue = worker.queue := by
  unfold advance
  split
  · dsimp only
    split <;> rfl
  · rfl

/-- A worker that begins a message stops, or it is busy and the other messages stay in the queue. -/
theorem begin_kinds (message : Message) (worker : Worker State) :
    worker.begin message = worker.stop ∨ (worker.begin message).queue = worker.queue := by
  unfold Worker.begin
  split
  · exact .inl rfl
  · cases message with
    | request ticket content => cases content <;> exact .inr rfl
    | ready => exact .inr rfl
    | shutdown => exact .inl rfl

/-- A worker that takes messages for a span goes on in single steps. -/
theorem drain_proceeds (transport : Transport State) (enough : Worker State → Bool)
    (messages : List Message) (span : Span) (worker : Worker State)
    (queued : worker.activity = .idle → worker.queue = messages) :
    Proceeds transport worker (drain transport enough messages span worker) := by
  induction messages generalizing span worker with
  | nil => exact .refl worker
  | cons message messages inductionHypothesis =>
    unfold drain
    split
    · rename_i idle
      have stepped : worker.step? transport =
          some ({ worker with queue := messages }.begin message) := by
        simp only [step?, idle, queued idle]
      have advanced := advance_proceeds transport enough span
        ({ worker with queue := messages }.begin message)
      refine .step stepped (advanced.trans (inductionHypothesis _ _ fun free => ?_))
      rcases begin_kinds message { worker with queue := messages } with stopped | kept
      · rw [stopped] at free
        cases free
      · rw [advance_queue, kept]
    · exact .refl worker

/-- Whatever a worker does while time passes, it does in single steps. -/
theorem pass_proceeds (transport : Transport State) (enough : Worker State → Bool) (span : Span)
    (worker : Worker State) : Proceeds transport worker (worker.pass transport enough span) :=
  (advance_proceeds transport enough span worker).trans
    (drain_proceeds transport enough _ _ _ fun _ => rfl)

end Worker

end MeshLight.Session
