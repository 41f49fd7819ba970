import MeshLight.Link.Bench
import MeshLight.Session.Request

/-!
# Operations in steps

Every operation touches the transport in two ways only: by whole steps, and by dropping the link
after the key. Apart from the installation of a key, its other actions are harmless: they concern
the tracker and the reports and can only drop a key. What holds of steps, of dropping the link and
of harmless actions, and carries over to procedures one after the other, therefore holds of every
operation. Which steps occur in it, and whether it installs a key, is its permission.
-/

namespace MeshLight.Session

open Link (Access Characteristic)

/-- Whether an action leaves the transport alone and can do nothing to the key but drop it. -/
def Action.harmless : Action → Bool
  | .queue => false
  | .installKey .. => false
  | .write .. => false
  | .read .. => false
  | .callReturn => false
  | .disconnect => false
  | _ => true

/-- What a procedure may do beside harmless actions and dropping the link: what its steps may ask
for, and whether it may install a key. -/
structure Permission where
  access : Access → Prop
  install : Prop

/-- Everything is permitted. -/
def Permission.all : Permission :=
  { access := fun _ => True, install := True }

/-- A procedure that makes its calls in whole steps and does only what is permitted. -/
inductive Stepwise (permission : Permission) : {Value : Type} → Procedure Value → Prop where
  | done {Value : Type} (value : Value) : Stepwise permission (pure value)
  | action (action : Action) (harmless : action.harmless = true) :
    Stepwise permission (Procedure.of action)
  | installKey (key : SessionKey) (epoch : Nat) (permitted : permission.install) :
    Stepwise permission (Procedure.installKey key epoch)
  | disconnect : Stepwise permission Controller.disconnect
  | write (bound : Nat) (step : String) (characteristic : Characteristic) (value : Bytes)
    (permitted : permission.access (.write characteristic value)) :
    Stepwise permission (Step.write bound step characteristic value).run
  | read (bound : Nat) (step : String) (characteristic : Characteristic)
    (permitted : permission.access (.read characteristic)) :
    Stepwise permission (Step.read bound step characteristic).run
  | bind {First Second : Type} {first : Procedure First} {second : First → Procedure Second}
    (begins : Stepwise permission first) (continues : ∀ value, Stepwise permission (second value)) :
    Stepwise permission (first >>= second)

variable {permission : Permission}

namespace Stepwise

variable {First Second : Type}

/-- Attempts one after the other. -/
theorem attempt {first : Attempt First} {second : First → Attempt Second}
    (begins : Stepwise permission first.run)
    (continues : ∀ value, Stepwise permission (second value).run) :
    Stepwise permission (first >>= second).run := by
  refine begins.bind fun result => ?_
  cases result with
  | error failure => exact .done _
  | ok value => exact continues value

/-- A failure ends an attempt. -/
theorem fail (failure : Failure) : Stepwise permission (throw failure : Attempt First).run :=
  .done _

/-- A success ends an attempt. -/
theorem succeed (value : First) : Stepwise permission (pure value : Attempt First).run :=
  .done _

end Stepwise

namespace Controller

variable (controller : Controller)

/-- Giving up. -/
theorem abort_stepwise (failure : Failure) : Stepwise permission (abort failure) := by
  refine (Stepwise.action .isCancelled rfl).bind fun torn => ?_
  cases torn with
  | true => exact .done ()
  | false =>
    refine (Stepwise.action (.setPhase .fail) rfl).bind fun _ => ?_
    simp only
    split
    · exact Stepwise.disconnect.bind fun _ => .action .reset rfl
    · exact .action .reset rfl

/-- Asking for the key. -/
theorem requireKey_stepwise : Stepwise permission controller.requireKey.run := by
  refine (Stepwise.action .sessionKey rfl).bind fun held => ?_
  cases held with
  | none => exact .done _
  | some key => exact .done _

/-! ## Pairing -/

/-- The conversation of a pairing. -/
theorem handshake_stepwise (random : SessionRandom)
    (asks : permission.access
      (.write .pairing (Frame.encodePairRequest controller.credentials random)))
    (echoes : permission.access (.write .status Frame.statusEcho))
    (replies : permission.access (.read .pairing)) :
    Stepwise permission (controller.handshake random).run := by
  refine Stepwise.attempt (.write _ _ _ _ asks) fun _ => ?_
  refine Stepwise.attempt (.write _ _ _ _ echoes) fun _ => ?_
  refine Stepwise.attempt (.read _ _ _ replies) fun response => ?_
  cases Frame.decodePairResponse response with
  | error fault => exact .fail _
  | ok answer =>
    cases answer with
    | accepted device => exact .succeed _
    | rejected => exact .fail _
    | unexpected tag => exact .fail _

/-- The installation of a key. -/
theorem install_stepwise (key : SessionKey) (epoch : Nat) (permitted : permission.install) :
    Stepwise permission (install key epoch).run := by
  refine (Stepwise.installKey key epoch permitted).bind fun installed => ?_
  cases installed with
  | true => exact .done _
  | false =>
    refine (Stepwise.action .isCancelled rfl).bind fun torn => ?_
    cases torn with
    | true => exact .done _
    | false => exact .done _

/-- The end of a pairing. -/
theorem concludePairing_stepwise (result : Except Failure Unit) :
    Stepwise permission (concludePairing result) := by
  cases result with
  | ok _ =>
    exact (Stepwise.action (.count .pairingEstablished) rfl).bind fun _ =>
      .action (.emit (.pairingFinished .established)) rfl
  | error failure =>
    refine (Stepwise.action (.count (.pairingFailure failure.reason)) rfl).bind fun _ => ?_
    refine (Stepwise.action (.emit (.pairingFinished failure.outcome)) rfl).bind fun _ => ?_
    exact abort_stepwise failure

/-- A pairing. -/
theorem pair_stepwise
    (asks : ∀ random, permission.access
      (.write .pairing (Frame.encodePairRequest controller.credentials random)))
    (echoes : permission.access (.write .status Frame.statusEcho))
    (replies : permission.access (.read .pairing)) (installs : permission.install) :
    Stepwise permission controller.pair := by
  refine (Stepwise.action (.count .pairingAttempt) rfl).bind fun _ => ?_
  refine (Stepwise.action .clearKey rfl).bind fun _ => ?_
  refine (Stepwise.action .lossCount rfl).bind fun epoch => ?_
  refine (Stepwise.action (.emit .pairingStarted) rfl).bind fun _ => ?_
  refine (Stepwise.attempt (handshake_stepwise _ _ (asks _) echoes replies) fun key =>
    install_stepwise key epoch installs).bind fun result => ?_
  exact (concludePairing_stepwise result).bind fun _ => .done _

/-! ## Commands and statuses -/

/-- The delivery of a command. -/
theorem deliver_stepwise (meshId : UInt16) (command : Light.Command)
    (permitted : ∀ frame, permission.access (.write .command frame)) :
    Stepwise permission (controller.deliver meshId command) := by
  refine controller.requireKey_stepwise.bind fun required => ?_
  cases required with
  | error failure => exact .done _
  | ok key =>
    simp only
    split
    · exact .done _
    · exact (Stepwise.write _ _ _ _ (permitted _)).bind fun _ => .done _

/-- A command. -/
theorem send_stepwise (meshId : UInt16) (command : Light.Command)
    (permitted : ∀ frame, permission.access (.write .command frame)) :
    Stepwise permission (controller.send meshId command) := by
  refine (controller.deliver_stepwise meshId command permitted).bind fun delivered => ?_
  obtain ⟨result, drawn⟩ := delivered
  cases result with
  | ok _ =>
    refine (Stepwise.action (.count _) rfl).bind fun _ => ?_
    exact (Stepwise.action (.emit _) rfl).bind fun _ => .done _
  | error failure =>
    refine (Stepwise.action (.count _) rfl).bind fun _ => ?_
    refine (Stepwise.action (.emit _) rfl).bind fun _ => ?_
    exact (abort_stepwise failure).bind fun _ => .done _

/-- Reading the status. -/
theorem readStatus_stepwise (permitted : permission.access (.read .status)) :
    Stepwise permission controller.readStatus := by
  have fetched : Stepwise permission controller.fetchStatus.run := by
    refine Stepwise.attempt controller.requireKey_stepwise fun key => ?_
    refine Stepwise.attempt (.read _ _ _ permitted) fun frame => ?_
    cases Frame.decodeNotification key controller.address frame with
    | error fault => exact .fail _
    | ok notification => exact .succeed _
  refine fetched.bind fun result => ?_
  cases result with
  | ok notification =>
    refine (Stepwise.action (.count .statusRead) rfl).bind fun _ => ?_
    exact (Stepwise.action (.emit _) rfl).bind fun _ => .done _
  | error failure => exact (abort_stepwise failure).bind fun _ => .done _

/-! ## Moves -/

/-- Writing frames. -/
theorem writeAll_stepwise (frames : List Bytes)
    (permitted : ∀ frame ∈ frames, permission.access (.write .pairing frame)) :
    Stepwise permission (controller.writeAll frames).run := by
  induction frames with
  | nil => exact .succeed ()
  | cons frame frames inductionHypothesis =>
    obtain ⟨first, rest⟩ := List.forall_mem_cons.mp permitted
    exact Stepwise.attempt (.write _ _ _ _ first) fun _ => inductionHypothesis rest

/-- Announcing new credentials. -/
theorem announce_stepwise (frames : List Bytes)
    (permitted : ∀ frame ∈ frames, permission.access (.write .pairing frame))
    (replies : permission.access (.read .pairing)) :
    Stepwise permission (controller.announce frames).run := by
  refine Stepwise.attempt (controller.writeAll_stepwise frames permitted) fun _ => ?_
  refine Stepwise.attempt (.read _ _ _ replies) fun reply => ?_
  cases reply with
  | nil => exact .fail _
  | cons tag rest =>
    simp only
    split
    · exact .succeed ()
    · exact .fail _

/-- A move. -/
theorem migrate_stepwise (credentials : Credentials) (longTermKey : Bytes)
    (permitted : ∀ key frames, migrationFrames key credentials longTermKey = .ok frames →
      ∀ frame ∈ frames, permission.access (.write .pairing frame))
    (replies : permission.access (.read .pairing)) :
    Stepwise permission (controller.migrate credentials longTermKey) := by
  refine controller.requireKey_stepwise.bind fun required => ?_
  cases required with
  | error failure => exact .done _
  | ok key =>
    simp only
    split
    · exact .done _
    · rename_i frames framed
      refine (controller.announce_stepwise frames (permitted key frames framed) replies).bind
        fun announced => ?_
      cases announced with
      | ok _ => exact (Stepwise.action (.emit _) rfl).bind fun _ => .done _
      | error failure => exact (abort_stepwise failure).bind fun _ => .done _

/-! ## All of them -/

/-- Every operation makes its calls in whole steps. -/
theorem perform_stepwise (meshId : UInt16) (request : Request) :
    Stepwise .all (controller.perform meshId request) := by
  cases request with
  | pair =>
    exact (controller.pair_stepwise (fun _ => True.intro) True.intro True.intro True.intro).bind
      fun _ => .done _
  | light command =>
    exact (controller.send_stepwise meshId command fun _ => True.intro).bind fun _ => .done _
  | status => exact (controller.readStatus_stepwise True.intro).bind fun _ => .done _
  | migrate credentials longTermKey =>
    exact (controller.migrate_stepwise credentials longTermKey
      (fun _ _ _ _ _ => True.intro) True.intro).bind fun _ => .done _

end Controller

end MeshLight.Session
