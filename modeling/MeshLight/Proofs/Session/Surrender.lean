import MeshLight.Proofs.Link.Intervention
import MeshLight.Proofs.Session.Course
import MeshLight.Proofs.Session.Stepwise

/-!
# Operations that give up

An operation is a tree, and a teardown may come at any of its nodes. If it comes while a call is
under way, what is left of the operation is known whatever others do to the tracker from then on:
the wait behind the call sees the mark, every attempt ends with its first failure, and the policy
for failures leaves a torn tracker alone. So the rest makes no call any more and ends as cancelled.

That is a property of the tree alone. It is stated for any node at which a call returns, and carried
through every operation by one rule for procedures one after the other.
-/

namespace MeshLight.Session

open Link (Characteristic Completion Phase Tracker Transport)

/-- Whether an action asks the transport for something. -/
def Action.calls : Action → Bool
  | .write .. => true
  | .read .. => true
  | .disconnect => true
  | _ => false

/-- What a torn tracker allows an action to reply: it says that it was torn down. -/
def Action.TornReply : (action : Action) → action.Reply → Prop
  | .isCancelled, torn => torn = true
  | _, _ => True

namespace Procedure

variable {First Second Result : Type}

/-- On a torn tracker the procedure makes no call and ends like this. -/
def GivesUp (ends : Result → Prop) : Procedure Result → Prop
  | .done result => ends result
  | .act action next =>
    action.calls = false ∧ ∀ reply, action.TornReply reply → (next reply).GivesUp ends
  | .await _ _ next => (next .cancelled).GivesUp ends

/-- If the tracker is torn down while a call is under way, the rest of the procedure makes no
further call and ends like this. -/
def Surrenders (ends : Result → Prop) : Procedure Result → Prop
  | .done _ => True
  | .act action next =>
    (action = .callReturn → (Procedure.act action next).GivesUp ends) ∧
      ∀ reply, (next reply).Surrenders ends
  | .await _ _ next => ∀ verdict, (next verdict).Surrenders ends

/-- What gives up goes on with what gives up. -/
theorem GivesUp.bind {ends : First → Prop} {final : Second → Prop} {first : Procedure First}
    {second : First → Procedure Second} (begins : first.GivesUp ends)
    (continues : ∀ result, ends result → (second result).GivesUp final) :
    (first >>= second).GivesUp final := by
  change (first.bind second).GivesUp final
  induction first with
  | done result => exact continues result begins
  | act action next inductionHypothesis =>
    exact ⟨begins.1, fun reply torn => inductionHypothesis reply (begins.2 reply torn)⟩
  | await bound targets next inductionHypothesis => exact inductionHypothesis .cancelled begins

/-- A call of the first procedure surrenders to what the second makes of its end. -/
theorem Surrenders.bind {ends : First → Prop} {final : Second → Prop} {first : Procedure First}
    {second : First → Procedure Second} (begins : first.Surrenders ends)
    (ending : ∀ result, ends result → (second result).GivesUp final)
    (continues : ∀ result, (second result).Surrenders final) :
    (first >>= second).Surrenders final := by
  change (first.bind second).Surrenders final
  induction first with
  | done result => exact continues result
  | act action next inductionHypothesis =>
    refine ⟨fun returns => ?_, fun reply => inductionHypothesis reply (begins.2 reply)⟩
    have givesUp : (Procedure.act action next >>= second).GivesUp final :=
      (begins.1 returns).bind ending
    exact givesUp
  | await bound targets next inductionHypothesis =>
    exact fun verdict => inductionHypothesis verdict (begins verdict)

/-- Any other action goes on. -/
theorem Surrenders.act {ends : Result → Prop} {action : Action}
    {next : action.Reply → Procedure Result} (other : action ≠ .callReturn)
    (rest : ∀ reply, (next reply).Surrenders ends) :
    (Procedure.act action next).Surrenders ends :=
  ⟨fun returns => absurd returns other, rest⟩

/-- A procedure without a call has nothing to surrender to. -/
theorem Surrenders.of_stepwise {procedure : Procedure Result}
    (stepwise : Stepwise { access := fun _ => False, install := True } procedure)
    (ends : Result → Prop) : procedure.Surrenders ends := by
  induction stepwise with
  | done value => trivial
  | action action harmless =>
    refine ⟨fun returns => ?_, fun reply => trivial⟩
    rw [returns] at harmless
    cases harmless
  | installKey key epoch permitted => exact ⟨nofun, fun reply => trivial⟩
  | disconnect =>
    refine ⟨nofun, fun had => ⟨nofun, fun _ => ?_⟩⟩
    cases had with
    | true => exact ⟨nofun, fun _ => ⟨nofun, fun _ => trivial⟩⟩
    | false => trivial
  | write bound step characteristic value permitted => exact permitted.elim
  | read bound step characteristic permitted => exact permitted.elim
  | bind begins continues first second =>
    exact (first fun _ => False).bind (fun _ => False.elim) fun value => second value ends

/-- What stands behind a procedure without a call surrenders for both. -/
theorem Surrenders.behind {final : Second → Prop} {first : Procedure First}
    {second : First → Procedure Second}
    (stepwise : Stepwise { access := fun _ => False, install := True } first)
    (continues : ∀ result, (second result).Surrenders final) :
    (first >>= second).Surrenders final :=
  (of_stepwise stepwise fun _ => False).bind (fun _ => False.elim) continues

end Procedure

/-- How a procedure that may fail ends if it is torn down. -/
def Cancelled {Value : Type} (result : Except Failure Value) : Prop :=
  result = .error .cancelled

/-- How an operation ends if it is torn down: nothing was taken over. -/
def Forgone {Value : Type} (controller : Controller) (ended : Except Failure Value × Controller) :
    Prop :=
  ended.1 = .error .cancelled ∧ ended.2.credentials = controller.credentials

/-- What an operation gives makes no difference. -/
theorem Forgone.map {First Second : Type} {controller : Controller}
    {ended : Except Failure First × Controller} (forgone : Forgone controller ended)
    (change : First → Second) : Forgone controller (ended.1.map change, ended.2) := by
  obtain ⟨cancelled, kept⟩ := forgone
  exact ⟨congrArg (Except.map change) cancelled, kept⟩

namespace Step

variable (bound : Nat) (step : String) (characteristic : Characteristic)

/-- A wait on a torn tracker is cancelled. -/
theorem settle_givesUp (epoch : Nat) (targets : List Phase) :
    (settle bound step epoch targets).GivesUp Cancelled :=
  rfl

/-- A wait makes no call. -/
theorem settle_surrenders (epoch : Nat) (targets : List Phase)
    (ends : Except Failure Unit → Prop) :
    (settle bound step epoch targets).Surrenders ends := by
  intro verdict
  cases verdict with
  | reached phase =>
    cases phase with
    | fail =>
      refine .act nofun fun current => .act nofun fun error => ?_
      split <;> trivial
    | _ => trivial
  | timedOut => exact .act nofun fun _ => .act nofun fun _ => trivial
  | cancelled => trivial

/-- A call and the wait behind it surrender to what stands behind them. -/
theorem returning_surrenders {Value : Type} (epoch : Nat) (targets : List Phase)
    {next : Except Failure Unit → Procedure (Except Failure Value)}
    (ending : (next (.error .cancelled)).GivesUp Cancelled)
    (continues : ∀ settled, (next settled).Surrenders Cancelled) :
    (Procedure.of .callReturn >>= fun _ => settle bound step epoch targets >>= next).Surrenders
      Cancelled := by
  refine ⟨fun _ => ⟨rfl, fun _ _ => ?_⟩, fun _ => ?_⟩
  · refine (settle_givesUp bound step epoch targets).bind fun settled cancelled => ?_
    rw [cancelled]
    exact ending
  · exact (settle_surrenders bound step epoch targets fun _ => False).bind (fun _ => False.elim)
      continues

/-- A write surrenders. -/
theorem write_surrenders (value : Bytes) :
    (write bound step characteristic value).run.Surrenders Cancelled := by
  refine .act nofun fun _ => .act nofun fun epoch => .act nofun fun _ => .act nofun fun _ => ?_
  exact returning_surrenders bound step epoch _ ⟨rfl, fun _ _ => rfl⟩
    fun _ => .act nofun fun _ => trivial

/-- A read surrenders. -/
theorem read_surrenders : (read bound step characteristic).run.Surrenders Cancelled := by
  refine .act nofun fun _ => .act nofun fun epoch => .act nofun fun _ => .act nofun fun _ => ?_
  refine returning_surrenders bound step epoch _
    ⟨rfl, fun _ _ => ⟨rfl, fun _ _ => rfl⟩⟩
    fun settled => .act nofun fun response => .act nofun fun _ => ?_
  split <;> trivial

end Step

/-- Attempts one after the other surrender; what stands behind a cancellation is left out. -/
theorem Procedure.Surrenders.attempt {First Second : Type} {first : Attempt First}
    {second : First → Attempt Second} (begins : first.run.Surrenders Cancelled)
    (continues : ∀ result, (second result).run.Surrenders Cancelled) :
    (first >>= second).run.Surrenders Cancelled := by
  refine Surrenders.bind begins (fun result cancelled => ?_) fun result => ?_
  · rw [cancelled]
    exact rfl
  · cases result with
    | error failure => trivial
    | ok value => exact continues value

namespace Controller

variable (controller : Controller)

/-- Giving up leaves a torn tracker alone. -/
theorem abort_givesUp (failure : Failure) : (abort failure).GivesUp fun _ => True := by
  refine ⟨rfl, fun torn marked => ?_⟩
  have marked : torn = true := marked
  rw [marked]
  trivial

/-! ## Pairing -/

/-- The conversation of a pairing surrenders. -/
theorem handshake_surrenders (random : SessionRandom) :
    (controller.handshake random).run.Surrenders Cancelled := by
  refine (Step.write_surrenders _ _ _ _).attempt fun _ => ?_
  refine (Step.write_surrenders _ _ _ _).attempt fun _ => ?_
  refine (Step.read_surrenders _ _ _).attempt fun response => ?_
  cases Frame.decodePairResponse response with
  | error fault => trivial
  | ok answer => cases answer <;> trivial

/-- A pairing surrenders. -/
theorem pair_surrenders : controller.pair.Surrenders (Forgone controller) := by
  refine .act nofun fun _ => .act nofun fun _ => .act nofun fun epoch => .act nofun fun _ => ?_
  have conversation : (do
      let key ← controller.drawRandom.2.handshake controller.drawRandom.1
      install key epoch : Attempt Unit).run.Surrenders Cancelled :=
    (handshake_surrenders _ _).attempt fun key =>
      .of_stepwise (install_stepwise key epoch True.intro) _
  refine conversation.bind (fun result cancelled => ?_) fun result => ?_
  · rw [cancelled]
    have concluded : (concludePairing (.error .cancelled)).GivesUp fun _ => True :=
      ⟨rfl, fun _ _ => ⟨rfl, fun _ _ => abort_givesUp _⟩⟩
    exact concluded.bind fun _ _ => ⟨rfl, rfl⟩
  · exact .behind (concludePairing_stepwise result) fun _ => trivial

/-! ## Commands and statuses -/

/-- The delivery of a command surrenders. -/
theorem deliver_surrenders (meshId : UInt16) (command : Light.Command) :
    (controller.deliver meshId command).Surrenders (Forgone controller) := by
  refine .behind controller.requireKey_stepwise fun required => ?_
  cases required with
  | error failure => trivial
  | ok key =>
    dsimp only
    split
    · trivial
    · exact (Step.write_surrenders _ _ _ _).bind (fun result cancelled => ⟨cancelled, rfl⟩)
        fun _ => trivial

/-- A command surrenders. -/
theorem send_surrenders (meshId : UInt16) (command : Light.Command) :
    (controller.send meshId command).Surrenders (Forgone controller) := by
  refine (controller.deliver_surrenders meshId command).bind (fun ended forgone => ?_)
    fun ended => ?_
  · obtain ⟨result, drawn⟩ := ended
    obtain ⟨cancelled, kept⟩ := forgone
    have cancelled : result = .error .cancelled := cancelled
    rw [cancelled]
    refine ⟨rfl, fun _ _ => ⟨rfl, fun _ _ => ?_⟩⟩
    exact (abort_givesUp .cancelled).bind fun _ _ => ⟨rfl, kept⟩
  · obtain ⟨result, drawn⟩ := ended
    cases result with
    | ok _ => exact .act nofun fun _ => .act nofun fun _ => trivial
    | error failure =>
      have aborted : (abort failure >>= fun _ =>
          pure ((.error failure : Except Failure Unit), drawn)).Surrenders (Forgone controller) :=
        .behind (abort_stepwise failure) fun _ => trivial
      exact .act nofun fun _ => .act nofun fun _ => aborted

/-- Reading a notification surrenders. -/
theorem fetchStatus_surrenders : controller.fetchStatus.run.Surrenders Cancelled := by
  refine (Procedure.Surrenders.of_stepwise controller.requireKey_stepwise _).attempt fun key => ?_
  refine (Step.read_surrenders _ _ _).attempt fun frame => ?_
  cases Frame.decodeNotification key controller.address frame <;> trivial

/-- Reading the status surrenders. -/
theorem readStatus_surrenders : controller.readStatus.Surrenders Cancelled := by
  refine controller.fetchStatus_surrenders.bind (fun result cancelled => ?_) fun result => ?_
  · rw [cancelled]
    exact (abort_givesUp .cancelled).bind fun _ _ => rfl
  · cases result with
    | ok notification => exact .act nofun fun _ => .act nofun fun _ => trivial
    | error failure =>
      exact .behind (abort_stepwise failure) fun _ => trivial

/-! ## Moves -/

/-- Writing frames surrenders. -/
theorem writeAll_surrenders (frames : List Bytes) :
    (controller.writeAll frames).run.Surrenders Cancelled := by
  induction frames with
  | nil => trivial
  | cons frame frames inductionHypothesis =>
    exact (Step.write_surrenders _ _ _ _).attempt fun _ => inductionHypothesis

/-- Announcing new credentials surrenders. -/
theorem announce_surrenders (frames : List Bytes) :
    (controller.announce frames).run.Surrenders Cancelled := by
  refine (controller.writeAll_surrenders frames).attempt fun _ => ?_
  refine (Step.read_surrenders _ _ _).attempt fun reply => ?_
  cases reply with
  | nil => trivial
  | cons tag rest =>
    dsimp only
    split <;> trivial

/-- A move surrenders: the credentials are taken over only behind the reply. -/
theorem migrate_surrenders (credentials : Credentials) (longTermKey : Bytes) :
    (controller.migrate credentials longTermKey).Surrenders (Forgone controller) := by
  refine .behind controller.requireKey_stepwise fun required => ?_
  cases required with
  | error failure => trivial
  | ok key =>
    dsimp only
    split
    · trivial
    · rename_i frames framed
      refine (controller.announce_surrenders frames).bind (fun result cancelled => ?_)
        fun result => ?_
      · rw [cancelled]
        exact (abort_givesUp .cancelled).bind fun _ _ => ⟨rfl, rfl⟩
      · cases result with
        | ok _ => exact .act nofun fun _ => trivial
        | error failure => exact .behind (abort_stepwise failure) fun _ => trivial

/-! ## All of them -/

/-- Every operation surrenders. -/
theorem perform_surrenders (meshId : UInt16) (request : Request) :
    (controller.perform meshId request).Surrenders (Forgone controller) := by
  cases request with
  | pair =>
    exact controller.pair_surrenders.bind (fun _ forgone => forgone.map _) fun _ => trivial
  | light command =>
    exact (controller.send_surrenders meshId command).bind (fun _ forgone => forgone.map _)
      fun _ => trivial
  | status =>
    refine controller.readStatus_surrenders.bind (fun result cancelled => ?_) fun _ => trivial
    have forgone : Forgone controller (result, controller) := ⟨cancelled, rfl⟩
    exact forgone.map _
  | migrate credentials longTermKey =>
    exact (controller.migrate_surrenders credentials longTermKey).bind
      (fun _ forgone => forgone.map _) fun _ => trivial

end Controller

end MeshLight.Session
