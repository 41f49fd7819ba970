import MeshLight.Proofs.Session.Course
import MeshLight.Proofs.Session.Gating
import MeshLight.Proofs.Session.Pace

/-!
# Teardown

A tracker may be torn down while a write or a read is under way, next to anything else: a report
that has come already, a lost link, the last call of a pairing or of a move. The teardown wins over
all of it. The wait behind the call sees the mark first, so the step fails as cancelled; an attempt
ends with its first failure; a key is installed and credentials are taken over only behind a
success; and the policy for failures leaves a torn tracker alone.

The proof follows this chain: one lemma for a step, one for attempts one after the other, one for
what concludes an operation, and from them one for each operation.
-/

namespace MeshLight.Session

open Link (Completion Contact Report Script Tracker Turn)

/-- Requests to drop the link ask for no access. -/
theorem drops_ask_nothing {made : List Contact}
    (drops : ∀ contact ∈ made, contact.access? = none) (number : Nat) (access : Link.Access) :
    made[number]?.bind Contact.access? ≠ some access := by
  intro asked
  obtain ⟨contact, among, accessed⟩ := Option.bind_eq_some_iff.mp asked
  rw [drops contact (List.mem_of_getElem? among)] at accessed
  cases accessed

/-- How calls yield to a teardown: a write or a read in which the tracker is torn down is the last
call, and the result is that of a cancellation. The tracker is torn then, with nothing left over. -/
def Yielded {Value : Type} (script : Script) (world later : World (List Contact))
    (result : Except Failure Value) : Prop :=
  ∃ made, later.transport = world.transport ++ made ∧
    ∀ number access, made[number]?.bind Contact.access? = some access →
      .cancel ∈ (script (world.transport.length + number)).disturbances →
        number + 1 = made.length ∧ result = .error .cancelled ∧
          Torn later.tracker ∧ Idle later.tracker

namespace Yielded

variable {First Second Value : Type} {script : Script} {world middle later : World (List Contact)}

/-- Without a write or a read there is nothing to yield to. -/
theorem of_drops (drops : Adds (fun contact => contact.access? = none) world later)
    (result : Except Failure Value) : Yielded script world later result := by
  obtain ⟨made, grown, none⟩ := drops
  exact ⟨made, grown, fun number access asked => absurd asked (drops_ask_nothing none _ _)⟩

/-- Without a call there is nothing to yield to. -/
theorem of_same (same : later.transport = world.transport) (result : Except Failure Value) :
    Yielded script world later result :=
  of_drops (.none same) result

/-- A scripted step yields: a cancellation comes first in the table of its outcomes. -/
theorem behind {wanted : Report → Option Value} {bound : Nat} {step : String} (script : Script)
    (access : Link.Access) (world : World (List Contact)) :
    let ended := Step.outcome wanted bound step world.tracker.cancelled
      (script world.transport.length)
    Yielded script world (Step.behind script access ended world) ended := by
  intro ended
  refine ⟨[_], rfl, fun number asked among torn => ?_⟩
  have only : number = 0 := by
    cases number with
    | zero => rfl
    | succ number => cases among
  subst only
  have torn : .cancel ∈ (script world.transport.length).disturbances := torn
  refine ⟨rfl, by simp [ended, Step.outcome, torn], ⟨?_, ?_⟩, ⟨rfl, rfl, rfl⟩⟩
  · simp [Step.behind, Step.settled, torn]
  · simp [Step.behind, Step.settled, List.ne_nil_of_mem torn]

/-- Calls behind calls that did not yield. -/
theorem trans {first : Except Failure First} {second : Except Failure Second}
    (one : Yielded script world middle first) (kept : first ≠ .error .cancelled)
    (two : Yielded script middle later second) : Yielded script world later second := by
  obtain ⟨before, beforeIs, beforeYields⟩ := one
  obtain ⟨further, furtherIs, furtherYields⟩ := two
  refine ⟨before ++ further, by rw [furtherIs, beforeIs, List.append_assoc], ?_⟩
  intro number access asked torn
  by_cases early : number < before.length
  · rw [List.getElem?_append_left early] at asked
    exact absurd (beforeYields number access asked torn).2.1 kept
  · have late : before.length ≤ number := Nat.le_of_not_lt early
    rw [List.getElem?_append_right late] at asked
    have turn : middle.transport.length + (number - before.length) =
        world.transport.length + number := by
      rw [beforeIs, List.length_append]
      omega
    obtain ⟨last, cancelled, torn, idle⟩ :=
      furtherYields (number - before.length) access asked (turn ▸ torn)
    refine ⟨?_, cancelled, torn, idle⟩
    rw [List.length_append]
    omega

/-- What concludes an operation may drop the link, but not behind a cancellation. -/
theorem conclude {result : Except Failure First} {final : Except Failure Second}
    (yielded : Yielded script world middle result)
    (drops : Adds (fun contact => contact.access? = none) middle later)
    (kept : result = .error .cancelled → Torn middle.tracker →
      later.transport = middle.transport ∧ later.tracker = middle.tracker ∧
        final = .error .cancelled) : Yielded script world later final := by
  obtain ⟨made, madeIs, yields⟩ := yielded
  obtain ⟨dropped, droppedIs, none⟩ := drops
  refine ⟨made ++ dropped, by rw [droppedIs, madeIs, List.append_assoc], ?_⟩
  intro number access asked torn
  by_cases early : number < made.length
  · rw [List.getElem?_append_left early] at asked
    obtain ⟨last, cancelled, torn, idle⟩ := yields number access asked torn
    obtain ⟨transport, tracker, same⟩ := kept cancelled torn
    have nothing : dropped = [] := by simpa [transport] using droppedIs
    exact ⟨by simp [nothing, last], same, tracker ▸ torn, tracker ▸ idle⟩
  · rw [List.getElem?_append_right (Nat.le_of_not_lt early)] at asked
    exact absurd asked (drops_ask_nothing none _ _)

/-- A success is concluded by reports alone. -/
theorem succeed {result : First} (yielded : Yielded script world middle (.ok result))
    (same : later.transport = middle.transport) (final : Second) :
    Yielded script world later (.ok final) :=
  yielded.conclude (.none same) fun failed => by cases failed

/-- What an operation gives makes no difference. -/
theorem map {result : Except Failure First} (yielded : Yielded script world later result)
    (change : First → Second) : Yielded script world later (result.map change) := by
  refine yielded.conclude (.none rfl) fun cancelled _ => ⟨rfl, rfl, ?_⟩
  rw [cancelled]
  rfl

/-- The policy for a failure leaves a torn tracker and its link alone. -/
theorem abort {failure : Failure} {reported : World (List Contact)}
    (yielded : Yielded script world middle (.error failure : Except Failure First))
    (tracker : reported.tracker = middle.tracker)
    (transport : reported.transport = middle.transport) :
    Yielded script world ((Controller.abort failure).finish script.transport reported).2
      (.error failure : Except Failure Second) := by
  have drops : Adds (fun contact => contact.access? = none) middle
      ((Controller.abort failure).finish script.transport reported).2 :=
    Adds.trans (.none transport)
      (.of_silent (Controller.abort_stepwise failure) (fun _ => rfl) script reported)
  refine yielded.conclude drops fun cancelled torn => ?_
  have torn : reported.tracker.cancelled = true := tracker ▸ torn.cancelled
  rw [Controller.finish_abort_cancelled script failure reported torn]
  refine ⟨transport, tracker, ?_⟩
  cases cancelled
  rfl

end Yielded

/-- An attempt that yields to a teardown wherever it begins. -/
def Yields {Value : Type} (script : Script) (attempt : Attempt Value) : Prop :=
  ∀ world, Yielded script world (attempt.run.finish script.transport world).2
    (attempt.run.finish script.transport world).1

namespace Yields

variable {First Second : Type} {script : Script}

/-- A success without a step. -/
theorem succeed (result : First) : Yields script (pure result : Attempt First) :=
  fun _ => .of_same rfl _

/-- A failure without a step. -/
theorem fail (failure : Failure) : Yields script (throw failure : Attempt First) :=
  fun _ => .of_same rfl _

/-- A write is a step. -/
theorem write (bound : Nat) (step : String) (characteristic : Link.Characteristic)
    (value : Bytes) : Yields script (Step.write bound step characteristic value) := by
  intro world
  rw [Step.finish_scripted_write]
  exact .behind script _ world

/-- A read is a step. -/
theorem read (bound : Nat) (step : String) (characteristic : Link.Characteristic) :
    Yields script (Step.read bound step characteristic) := by
  intro world
  rw [Step.finish_scripted_read]
  exact .behind script _ world

/-- Attempts one after the other. What yields has failed, so nothing follows it. -/
theorem bind {first : Attempt First} {second : First → Attempt Second}
    (begins : Yields script first) (continues : ∀ result, Yields script (second result)) :
    Yields script (first >>= second) := by
  intro world
  have begun := begins world
  rw [Procedure.finish_attempt]
  generalize first.run.finish script.transport world = reached at *
  obtain ⟨result, later⟩ := reached
  cases result with
  | error failure =>
    refine begun.conclude (.none rfl) fun cancelled _ => ⟨rfl, rfl, ?_⟩
    cases cancelled
    rfl
  | ok result => exact begun.trans nofun (continues result later)

end Yields

namespace Controller

variable (script : Script) (controller : Controller) (world : World (List Contact))

/-! ## Attempts -/

/-- Asking for the key makes no call. -/
theorem requireKey_yields : Yields script controller.requireKey := by
  intro world
  rw [finish_requireKey]
  exact .of_same rfl _

/-- The conversation of a pairing. -/
theorem handshake_yields (random : SessionRandom) :
    Yields script (controller.handshake random) := by
  refine (Yields.write _ _ _ _).bind fun _ => ?_
  refine (Yields.write _ _ _ _).bind fun _ => ?_
  refine (Yields.read _ _ _).bind fun response => ?_
  cases Frame.decodePairResponse response with
  | error fault => exact .fail _
  | ok answer =>
    cases answer with
    | accepted device => exact .succeed _
    | rejected => exact .fail _
    | unexpected tag => exact .fail _

/-- Installing a key makes no call. -/
theorem install_yields (key : SessionKey) (epoch : Nat) : Yields script (install key epoch) := by
  intro world
  have stepwise : Stepwise { access := fun _ => False, install := True } (install key epoch).run :=
    install_stepwise key epoch True.intro
  refine .of_drops ((Adds.of_stepwise stepwise script world).weaken fun contact covers => ?_) _
  cases asked : contact.access? with
  | none => rfl
  | some access => exact (covers access asked).elim

/-- Reading a notification. -/
theorem fetchStatus_yields : Yields script controller.fetchStatus := by
  refine (requireKey_yields script controller).bind fun key => ?_
  refine (Yields.read _ _ _).bind fun frame => ?_
  cases Frame.decodeNotification key controller.address frame with
  | error fault => exact .fail _
  | ok notification => exact .succeed _

/-- Writing frames. -/
theorem writeAll_yields (frames : List Bytes) : Yields script (controller.writeAll frames) := by
  induction frames with
  | nil => exact .succeed ()
  | cons frame frames inductionHypothesis =>
    exact (Yields.write _ _ _ _).bind fun _ => inductionHypothesis

/-- Announcing new credentials. -/
theorem announce_yields (frames : List Bytes) : Yields script (controller.announce frames) := by
  refine (writeAll_yields script controller frames).bind fun _ => ?_
  refine (Yields.read _ _ _).bind fun reply => ?_
  cases reply with
  | nil => exact .fail _
  | cons tag rest =>
    by_cases accepted : tag = Frame.meshAcceptedTag
    · simp only [accepted, if_true]
      exact .succeed ()
    · simp only [accepted, if_false]
      exact .fail _

/-! ## Operations -/

/-- A pairing yields: a key is installed only behind the whole conversation. -/
theorem pair_yielded :
    let paired := controller.pair.finish script.transport world
    Yielded script world paired.2 paired.1.1 := by
  have conversation : Yields script (do
      let key ← controller.drawRandom.2.handshake controller.drawRandom.1
      install key world.tracker.epoch) :=
    (handshake_yields script _ _).bind fun key => install_yields script key _
  let begun : World (List Contact) :=
    ((world.count .pairingAttempt).withTracker world.tracker.clearKey.2).emit .pairingStarted
  have yielded := conversation begun
  have opened : controller.pair.finish script.transport world =
      (do
        let result ← ExceptT.run do
          let key ← controller.drawRandom.2.handshake controller.drawRandom.1
          install key world.tracker.epoch
        concludePairing result
        return (result, controller.drawRandom.2) :
          Procedure (Except Failure Unit × Controller)).finish script.transport begun := rfl
  intro paired
  have same : paired = _ := opened
  simp only [Procedure.finish_bind, Procedure.finish_pure] at same
  rw [same]
  generalize (ExceptT.run do
    let key ← controller.drawRandom.2.handshake controller.drawRandom.1
    install key world.tracker.epoch).finish script.transport begun = reached at *
  obtain ⟨result, later⟩ := reached
  cases result with
  | ok _ => exact yielded.succeed rfl _
  | error failure => exact yielded.abort rfl rfl

/-- The delivery of a command yields. -/
theorem deliver_yielded (meshId : UInt16) (command : Light.Command) :
    let delivered := (controller.deliver meshId command).finish script.transport world
    Yielded script world delivered.2 delivered.1.1 := by
  simp only [deliver, Procedure.finish_bind, finish_requireKey]
  cases world.tracker.key with
  | none => exact .of_same rfl _
  | some key =>
    simp only [Option.elim]
    cases Frame.encodeLightCommand key controller.drawSequence.2.address
        controller.drawSequence.1 meshId command with
    | error fault => exact .of_same rfl _
    | ok frame =>
      simp only [Procedure.finish_bind, Procedure.finish_pure]
      exact Yields.write _ _ _ _ world

/-- A command yields. -/
theorem send_yielded (meshId : UInt16) (command : Light.Command) :
    let sent := (controller.send meshId command).finish script.transport world
    Yielded script world sent.2 sent.1.1 := by
  have delivered := deliver_yielded script controller world meshId command
  simp only [send, Procedure.finish_bind]
  generalize (controller.deliver meshId command).finish script.transport world = reached at *
  obtain ⟨⟨result, drawn⟩, later⟩ := reached
  cases result with
  | ok _ => exact delivered.succeed rfl _
  | error failure =>
    simp only [Procedure.finish_bind, Procedure.finish_count, Procedure.finish_emit,
      Procedure.finish_pure]
    exact delivered.abort rfl rfl

/-- Reading the status yields. -/
theorem readStatus_yielded :
    let got := controller.readStatus.finish script.transport world
    Yielded script world got.2 got.1 := by
  have fetched := fetchStatus_yields script controller world
  simp only [readStatus, Procedure.finish_bind]
  generalize controller.fetchStatus.run.finish script.transport world = reached at *
  obtain ⟨result, later⟩ := reached
  cases result with
  | ok notification => exact fetched.succeed rfl _
  | error failure =>
    simp only [Procedure.finish_bind, Procedure.finish_pure]
    exact fetched.abort rfl rfl

/-- A move yields. -/
theorem migrate_yielded (target : Credentials) (longTermKey : Bytes) :
    let moved := (controller.migrate target longTermKey).finish script.transport world
    Yielded script world moved.2 moved.1.1 := by
  simp only [migrate, Procedure.finish_bind, finish_requireKey]
  cases world.tracker.key with
  | none => exact .of_same rfl _
  | some key =>
    simp only [Option.elim]
    cases migrationFrames key target longTermKey with
    | error fault => exact .of_same rfl _
    | ok frames =>
      have announced := announce_yields script controller frames world
      simp only [Procedure.finish_bind]
      generalize (controller.announce frames).run.finish script.transport world = reached at *
      obtain ⟨result, later⟩ := reached
      cases result with
      | ok _ => exact announced.succeed rfl _
      | error failure =>
        simp only [Procedure.finish_bind, Procedure.finish_pure]
        exact announced.abort rfl rfl

/-- Every operation yields. -/
theorem perform_yielded (meshId : UInt16) (request : Request) :
    let performed := (controller.perform meshId request).finish script.transport world
    Yielded script world performed.2 performed.1.1 := by
  cases request with
  | pair =>
    simp only [perform, Procedure.finish_bind, Procedure.finish_pure]
    exact (pair_yielded script controller world).map _
  | light command =>
    simp only [perform, Procedure.finish_bind, Procedure.finish_pure]
    exact (send_yielded script controller world meshId command).map _
  | status =>
    simp only [perform, Procedure.finish_bind, Procedure.finish_pure]
    exact (readStatus_yielded script controller world).map _
  | migrate target longTermKey =>
    simp only [perform, Procedure.finish_bind, Procedure.finish_pure]
    exact (migrate_yielded script controller world target longTermKey).map _

/-- Drawing a sequence number is all that the delivery of a command does to a controller. -/
theorem deliver_credentials (meshId : UInt16) (command : Light.Command) :
    ((controller.deliver meshId command).finish script.transport world).1.2.credentials =
      controller.credentials := by
  simp only [deliver, Procedure.finish_bind, finish_requireKey]
  cases world.tracker.key with
  | none => rfl
  | some key =>
    simp only [Option.elim]
    cases Frame.encodeLightCommand key controller.drawSequence.2.address
        controller.drawSequence.1 meshId command with
    | error fault => rfl
    | ok frame => simp only [Procedure.finish_bind, Procedure.finish_pure, drawSequence]

/-- An operation that fails leaves the credentials as they were. -/
theorem perform_credentials (meshId : UInt16) (request : Request) {failure : Failure}
    (failed : ((controller.perform meshId request).finish script.transport world).1.1 =
      .error failure) :
    ((controller.perform meshId request).finish script.transport world).1.2.credentials =
      controller.credentials := by
  cases request with
  | pair =>
    simp only [perform, pair, Procedure.finish_bind, Procedure.finish_pure]
    rfl
  | light command =>
    have delivered := deliver_credentials script controller world meshId command
    simp only [perform, send, Procedure.finish_bind, Procedure.finish_pure]
    generalize (controller.deliver meshId command).finish script.transport world = reached at *
    obtain ⟨⟨result, drawn⟩, later⟩ := reached
    cases result with
    | ok _ => exact delivered
    | error failure =>
      simp only [Procedure.finish_bind, Procedure.finish_pure]
      exact delivered
  | status => simp only [perform, Procedure.finish_bind, Procedure.finish_pure]
  | migrate target longTermKey =>
    simp only [perform, migrate, Procedure.finish_bind, Procedure.finish_pure, finish_requireKey]
      at failed ⊢
    cases held : world.tracker.key with
    | none => rfl
    | some key =>
      simp only [held, Option.elim] at failed ⊢
      cases framed : migrationFrames key target longTermKey with
      | error fault => rfl
      | ok frames =>
        simp only [framed, Procedure.finish_bind] at failed ⊢
        generalize (controller.announce frames).run.finish script.transport world = reached at *
        obtain ⟨result, later⟩ := reached
        cases result with
        | ok _ => cases failed
        | error _ => simp only [Procedure.finish_bind, Procedure.finish_pure]

end Controller

/-- A teardown wins, for every state of the worker, every operation and every script.

If the tracker is torn down in a write or a read of the operation, before the report or behind it
and next to any losses of the link, that call is the last one of any kind. The operation fails as
cancelled, the credentials stay, and nothing is left in the tracker. From the teardown on the slot
of the key is empty in every course of the worker. A worker that has come to the end of such an
operation has done all that it will ever do: whatever happens, it makes no call, reports nothing and
leaves no result, and the next message that it takes ends it for good. -/
theorem teardown_wins (script : Script) (worker : Worker (List Contact)) (ticket : Option Nat)
    (request : Request) :
    let operation := worker.controller.perform worker.meshId request
    let performed := operation.finish script.transport worker.world
    let ended := ({ worker with world := performed.2 } : Worker (List Contact)).conclude ticket
      performed.1.1 performed.1.2
    Worker.Proceeds script.transport { worker with activity := .busy ticket operation 0 } ended ∧
    (∃ made, performed.2.transport = worker.world.transport ++ made ∧
      ∀ number access, made[number]?.bind Contact.access? = some access →
        .cancel ∈ (script (worker.world.transport.length + number)).disturbances →
          (number + 1 = made.length ∧ performed.1.1 = .error .cancelled ∧
            performed.1.2.credentials = worker.controller.credentials ∧
            Idle performed.2.tracker ∧ performed.2.tracker.key = none) ∧
          ∀ occurrences,
            let later := ended.course script.transport occurrences
            later.tracker.key = none ∧ ended.LeavesAlone later ∧
              (later.activity = .idle ∨ later.activity = .stopped) ∧
              (later.activity = .idle → later.queue ≠ [] →
                later.step? script.transport = some later.stop) ∧
              ∀ further, (later.stop.course script.transport further).activity = .stopped) ∧
    (∀ before : Tracker, worker.tracker = before.cancel → ∀ occurrences,
      (worker.course script.transport occurrences).tracker.key = none) := by
  intro operation performed ended
  refine ⟨Worker.finish_proceeds script.transport operation rfl, ?_, ?_⟩
  · obtain ⟨made, grown, yields⟩ :=
      worker.controller.perform_yielded script worker.world worker.meshId request
    refine ⟨made, grown, fun number access asked torn => ?_⟩
    obtain ⟨last, cancelled, torn, idle⟩ := yields number access asked torn
    have kept := worker.controller.perform_credentials script worker.world worker.meshId request
      cancelled
    refine ⟨⟨last, cancelled, kept, idle, torn.keyless⟩, fun occurrences => ?_⟩
    have finished : ended.Finished := ⟨torn, .inl rfl⟩
    obtain ⟨still, alone⟩ := finished.course script.transport occurrences
    exact ⟨still.torn.keyless, alone, still.free, still.exits script.transport,
      Worker.course_stopped script.transport rfl⟩
  · intro before torn occurrences
    exact (Worker.course_torn (torn ▸ Torn.cancel before) occurrences).keyless

/-- A light may accept a move in the very call that sees the teardown; the move fails as cancelled
all the same. -/
example :
    let controller : Controller :=
      { address := ⟨Vector.replicate 6 0⟩, credentials := ⟨"mesh", "word", by decide, by decide⟩,
        bound := defaultBound, random := { word := fun _ => 0 } }
    let target : Credentials := ⟨"office", "5678", by decide, by decide⟩
    let script : Script
      | 3 => { report := some (.delivered [Frame.meshAcceptedTag]), after := [.cancel] }
      | _ => { report := some .written }
    let world : World (List Contact) :=
      { tracker := { key := some ⟨Vector.replicate 16 0⟩ }, transport := [] }
    let moved := (controller.perform 0 (.migrate target [])).finish script.transport world
    moved.1.1 = .error .cancelled ∧ moved.2.transport.length = 4 ∧
      moved.1.2.credentials = controller.credentials := by
  decide +kernel

end MeshLight.Session
