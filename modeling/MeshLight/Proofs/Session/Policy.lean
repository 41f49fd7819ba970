import MeshLight.Proofs.Session.Pairing
import MeshLight.Session.Request

/-!
# The failure policy

The four operations fail in different ways. A pairing fails after it dropped the key itself; a
command may fail before its first call; a move may refuse credentials and touch nothing. All the
same each of them is either a refusal or an attempt that is concluded, and both end alike: the link
is dropped exactly if the failure asks for it, no key outlives a failure unless credentials were
refused, and nothing of the operation is left in the tracker.
-/

namespace MeshLight.Session

open Link (Script Contact Access Tracker)

/-- The key that a failed operation leaves in the slot: none, unless credentials were refused. -/
def keyBehind (before : Option SessionKey) : Failure → Option SessionKey
  | .invalidCredentials _ => before
  | _ => none

/-- What an operation leaves behind. Its calls were some accesses and then, if its failure asks for
it, one request to drop the link. A failure leaves no key, unless credentials were refused, and
leaves the credentials as they were. Nothing is left over, and a tracker that was torn down has no
key. -/
structure Handled {Value : Type} (result : Except Failure Value) (controller after : Controller)
    (world later : World (List Contact)) : Prop where
  calls : ∃ accesses : List Access, later.transport.map Contact.access? =
    world.transport.map Contact.access? ++ accesses.map some ++
      if dropsLink result = true then [none] else []
  key : ∀ failure, result = .error failure →
    later.tracker.key = keyBehind world.tracker.key failure
  credentials : ∀ failure, result = .error failure → after.credentials = controller.credentials
  idle : Idle later.tracker
  torn : Sealed later.tracker

namespace Handled

variable {First Second : Type} {controller after : Controller}
  {world middle later : World (List Contact)}

/-- What a success gives makes no difference. -/
theorem map {result : Except Failure First} (handled : Handled result controller after world later)
    (change : First → Second) : Handled (result.map change) controller after world later := by
  cases result with
  | error failure =>
    refine ⟨handled.calls, ?_, ?_, handled.idle, handled.torn⟩
    · rintro _ ⟨⟩
      exact handled.key failure rfl
    · rintro _ ⟨⟩
      exact handled.credentials failure rfl
  | ok value => exact ⟨handled.calls, nofun, nofun, handled.idle, handled.torn⟩

/-- A refusal touches nothing. -/
theorem refused (idle : Idle world.tracker) (torn : Sealed world.tracker) {failure : Failure}
    (sparing : failure.requiresDisconnect = false)
    (kept : world.tracker.key = keyBehind world.tracker.key failure) :
    Handled (.error failure : Except Failure First) controller controller world world := by
  refine ⟨⟨[], ?_⟩, ?_, fun _ _ => rfl, idle, torn⟩
  · simp [dropsLink, sparing]
  · rintro _ ⟨⟩
    exact kept

/-- Steps and their conclusion. A failure that spares the link left no key already, and one that
costs the connection takes the key with it. -/
theorem of_concluded {script : Script} {accesses : List Access} {result : Except Failure First}
    (idle : Idle world.tracker) (torn : Sealed world.tracker)
    (stepped : Stepped script accesses world middle) (ended : Ended result middle)
    (concluded : Concluded result middle later)
    (kept : ∀ failure, result = .error failure → after.credentials = controller.credentials) :
    Handled result controller after world later := by
  refine ⟨⟨accesses, ?_⟩, ?_, kept, concluded.idle (stepped.idle idle),
    concluded.torn (stepped.sealed torn)⟩
  · rw [concluded.calls, stepped.calls]
  · intro failure failed
    have gone : later.tracker.key = none := by
      rw [concluded.key]
      split
      · rfl
      · rename_i spared
        exact ended.sparing (by rw [failed]; rfl) (by simpa using spared)
    cases failure with
    | invalidCredentials fault => exact (ended.accepting fault failed).elim
    | _ => exact gone

end Handled

namespace Controller

variable (script : Script) (controller : Controller) (world : World (List Contact))

/-- The installed key is what the tracker holds. -/
theorem finish_requireKey {State : Type} (transport : Link.Transport State) (world : World State) :
    controller.requireKey.run.finish transport world =
      (world.tracker.key.elim (.error (.notEstablished controller.address)) .ok, world) := by
  cases held : world.tracker.key with
  | none => simp [requireKey, held]
  | some key => simp [requireKey, held]

/-- Asking for the key is an attempt without a step. A key is none of a tracker that was torn down,
and a refusal leaves none. -/
theorem requireKey_conducted (torn : Sealed world.tracker) :
    Conducted script controller.requireKey world := by
  unfold Conducted
  rw [finish_requireKey]
  refine ⟨[], Stepped.refl world, ?_⟩
  cases held : world.tracker.key with
  | none => exact ⟨nofun, nofun, fun _ _ => held, nofun⟩
  | some key =>
    have running : world.tracker.cancelled = false := by
      cases mark : world.tracker.cancelled with
      | false => rfl
      | true => simp [torn mark] at held
    exact ⟨fun _ => running, fun _ => running, nofun, nofun⟩

/-! ## Pairing -/

/-- A pairing is handled in every world: it drops the key before anything can fail. -/
theorem pair_handled (idle : Idle world.tracker) :
    let paired := controller.pair.finish script.transport world
    Handled paired.1.1 controller paired.1.2 world paired.2 := by
  obtain ⟨final, finished, calls, key, idling, torn, accepting⟩ :=
    pair_secures script controller world
  intro paired
  have same : paired = _ := finished
  have secures : Handled (controller.secured script controller.drawRandom.1 world) controller
      controller.drawRandom.2 world final := by
    refine ⟨⟨_, calls⟩, ?_, fun _ _ => rfl, idling idle, torn⟩
    intro failure failed
    rw [key, failed]
    cases failure with
    | invalidCredentials fault => exact (accepting fault failed).elim
    | _ => rfl
  rw [same]
  exact secures.map _

/-! ## Commands -/

/-- The delivery of a command is an attempt: it may refuse, fail to build its frame, or write it in
one step. The credentials stay. -/
theorem deliver_conducted (meshId : UInt16) (command : Light.Command)
    (torn : Sealed world.tracker) :
    ∃ accesses result after middle,
      (controller.deliver meshId command).finish script.transport world =
          ((result, after), middle) ∧
        Stepped script accesses world middle ∧ Ended result middle ∧
        after.credentials = controller.credentials := by
  obtain ⟨_, _, required⟩ := requireKey_conducted script controller world torn
  rw [finish_requireKey] at required
  simp only [deliver, Procedure.finish_bind, finish_requireKey]
  cases held : world.tracker.key with
  | none =>
    rw [held] at required
    exact ⟨[], _, _, world, rfl, Stepped.refl world,
      ⟨nofun, nofun, fun _ _ => held, nofun⟩, rfl⟩
  | some key =>
    rw [held] at required
    have running : world.tracker.cancelled = false := required.running rfl
    cases encoded : Frame.encodeLightCommand key controller.drawSequence.2.address
        controller.drawSequence.1 meshId command with
    | error fault =>
      refine ⟨[], .error (.packet fault), controller.drawSequence.2, world, ?_,
        Stepped.refl world, ⟨nofun, fun _ => running, nofun, nofun⟩, rfl⟩
      simp only [Option.elim, encoded, Procedure.finish_pure]
    | ok frame =>
      have wrote : Conducted script
          (controller.drawSequence.2.write "command" .command frame) world :=
        Conducted.write torn _ _ _ _
      obtain ⟨accesses, stepped, ended⟩ := wrote
      refine ⟨accesses, _, controller.drawSequence.2, _, ?_, stepped, ended, rfl⟩
      simp only [Option.elim, encoded, Procedure.finish_bind, Procedure.finish_pure]

/-- A command is handled. -/
theorem send_handled (meshId : UInt16) (command : Light.Command) (idle : Idle world.tracker)
    (torn : Sealed world.tracker) :
    let sent := (controller.send meshId command).finish script.transport world
    Handled sent.1.1 controller sent.1.2 world sent.2 := by
  obtain ⟨accesses, result, after, middle, delivered, stepped, ended, kept⟩ :=
    deliver_conducted script controller world meshId command torn
  intro sent
  cases result with
  | ok _ =>
    have same : sent = ((.ok (), after), (middle.count (.commandSent command.opcode)).emit
        (.commandSent command.opcode)) := by
      simp only [sent, send, Procedure.finish_bind, delivered, Procedure.finish_count,
        Procedure.finish_emit, Procedure.finish_pure]
    rw [same]
    exact .of_concluded idle torn stepped ended (.of_success () rfl rfl) fun _ _ => kept
  | error failure =>
    have same : sent = ((.error failure, after), ((abort failure).finish script.transport
        ((middle.count (.commandFailed failure.reason)).emit
          (.commandFailed command.opcode failure.reason))).2) := by
      simp only [sent, send, Procedure.finish_bind, delivered, Procedure.finish_count,
        Procedure.finish_emit, Procedure.finish_pure]
    rw [same]
    exact .of_concluded idle torn stepped ended (.of_failure script failure ended rfl rfl)
      fun _ _ => kept

/-! ## Statuses -/

/-- Reading a notification is an attempt. -/
theorem fetchStatus_conducted (torn : Sealed world.tracker) :
    Conducted script controller.fetchStatus world := by
  refine (requireKey_conducted script controller world torn).bind fun key later running => ?_
  refine (Conducted.read (.of_running running) _ _ _).bind fun frame last running => ?_
  cases Frame.decodeNotification key controller.address frame with
  | error fault => exact .fail running rfl
  | ok notification => exact .succeed running notification

/-- Reading the status is handled. -/
theorem readStatus_handled (idle : Idle world.tracker) (torn : Sealed world.tracker) :
    let got := controller.readStatus.finish script.transport world
    Handled got.1 controller controller world got.2 := by
  obtain ⟨accesses, stepped, ended⟩ := fetchStatus_conducted script controller world torn
  intro got
  have same : got = (controller.readStatus).finish script.transport world := rfl
  simp only [readStatus, Procedure.finish_bind] at same
  generalize controller.fetchStatus.run.finish script.transport world = fetched at *
  obtain ⟨result, middle⟩ := fetched
  cases result with
  | ok notification =>
    simp only [Procedure.finish_bind, Procedure.finish_count, Procedure.finish_emit,
      Procedure.finish_pure] at same
    rw [same]
    exact .of_concluded idle torn stepped ended (.of_success notification rfl rfl) fun _ _ => rfl
  | error failure =>
    simp only [Procedure.finish_bind, Procedure.finish_pure] at same
    rw [same]
    exact .of_concluded idle torn stepped ended (.of_failure script failure ended rfl rfl)
      fun _ _ => rfl

/-! ## Moves -/

/-- Writing frames is an attempt. -/
theorem writeAll_conducted (frames : List Bytes) (running : world.tracker.cancelled = false) :
    Conducted script (controller.writeAll frames) world := by
  induction frames generalizing world with
  | nil => exact .succeed running ()
  | cons frame frames inductionHypothesis =>
    exact (Conducted.write (.of_running running) _ _ _ _).bind fun _ later running =>
      inductionHypothesis later running

/-- Announcing new credentials is an attempt. -/
theorem announce_conducted (frames : List Bytes) (running : world.tracker.cancelled = false) :
    Conducted script (controller.announce frames) world := by
  refine (writeAll_conducted script controller world frames running).bind fun _ later running => ?_
  refine (Conducted.read (.of_running running) _ _ _).bind fun reply last running => ?_
  cases reply with
  | nil => exact .fail running rfl
  | cons tag rest =>
    by_cases accepted : tag = Frame.meshAcceptedTag
    · simp only [accepted, if_true]
      exact .succeed running ()
    · simp only [accepted, if_false]
      exact .fail running rfl

/-- A move is handled. New credentials that do not fit and a missing key are refusals. -/
theorem migrate_handled (credentials : Credentials) (longTermKey : Bytes)
    (idle : Idle world.tracker) (torn : Sealed world.tracker) :
    let moved := (controller.migrate credentials longTermKey).finish script.transport world
    Handled moved.1.1 controller moved.1.2 world moved.2 := by
  obtain ⟨_, _, required⟩ := requireKey_conducted script controller world torn
  rw [finish_requireKey] at required
  simp only [migrate, Procedure.finish_bind, finish_requireKey]
  cases held : world.tracker.key with
  | none =>
    exact .refused idle torn rfl (by rw [held]; rfl)
  | some key =>
    rw [held] at required
    have running : world.tracker.cancelled = false := required.running rfl
    cases framed : migrationFrames key credentials longTermKey with
    | error fault =>
      simp only [Option.elim, framed]
      exact .refused idle torn rfl rfl
    | ok frames =>
      obtain ⟨accesses, stepped, ended⟩ :=
        announce_conducted script controller world frames running
      simp only [Option.elim, framed, Procedure.finish_bind]
      generalize (controller.announce frames).run.finish script.transport world = announced at *
      obtain ⟨result, middle⟩ := announced
      cases result with
      | ok _ =>
        simp only [Procedure.finish_bind, Procedure.finish_emit, Procedure.finish_pure]
        exact .of_concluded idle torn stepped ended (.of_success () rfl rfl) nofun
      | error failure =>
        simp only [Procedure.finish_bind, Procedure.finish_pure]
        exact .of_concluded idle torn stepped ended (.of_failure script failure ended rfl rfl)
          fun _ _ => rfl

/-! ## All of them -/

/-- Every operation is handled. -/
theorem perform_handled (meshId : UInt16) (request : Request) (idle : Idle world.tracker)
    (torn : Sealed world.tracker) :
    let performed := (controller.perform meshId request).finish script.transport world
    Handled performed.1.1 controller performed.1.2 world performed.2 := by
  cases request with
  | pair =>
    simp only [perform, Procedure.finish_bind, Procedure.finish_pure]
    exact (pair_handled script controller world idle).map _
  | light command =>
    simp only [perform, Procedure.finish_bind, Procedure.finish_pure]
    exact (send_handled script controller world meshId command idle torn).map _
  | status =>
    simp only [perform, Procedure.finish_bind, Procedure.finish_pure]
    exact (readStatus_handled script controller world idle torn).map _
  | migrate credentials longTermKey =>
    simp only [perform, Procedure.finish_bind, Procedure.finish_pure]
    exact (migrate_handled script controller world credentials longTermKey idle torn).map _

end Controller

end MeshLight.Session
