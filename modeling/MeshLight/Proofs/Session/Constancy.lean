import MeshLight.Session.Request

/-!
# Operations that keep their session

Between two pairings nobody on the side of the worker drops a key but the policy for failures: an
operation under way that drops the key is on its way to a failure, and starts no pairing any more.
An operation other than a pairing holds in this sense, as long as it finds the key; so does a
pairing for a ready link that finds a key, because it is none.

Holding is read off the tree of an operation, whatever the replies of its actions are, except that
the key is there when it is asked for.
-/

namespace MeshLight.Session

/-- The action drops the key. -/
def Action.dropsKey : Action → Bool
  | .clearKey => true
  | _ => false

/-- A reply that is possible while the key is there. -/
def Action.Keyed : (action : Action) → action.Reply → Prop
  | .sessionKey, held => held ≠ none
  | _, _ => True

namespace Procedure

variable {First Second : Type} {held failed : First → Prop} {kept lost : Second → Prop}

/-- No pairing is started, and every end is a failed one. -/
def Failing (failed : First → Prop) : Procedure First → Prop
  | .done value => failed value
  | .act action next => action ≠ .emit .pairingStarted ∧ ∀ reply, (next reply).Failing failed
  | .await _ _ next => ∀ verdict, (next verdict).Failing failed

/-- While the key is there, no pairing is started; once the procedure drops the key, it is
failing. -/
def Holding (held failed : First → Prop) : Procedure First → Prop
  | .done value => held value
  | .act action next =>
    action ≠ .emit .pairingStarted ∧ ∀ reply, action.Keyed reply →
      if action.dropsKey then (next reply).Failing failed else (next reply).Holding held failed
  | .await _ _ next => ∀ verdict, (next verdict).Holding held failed

namespace Failing

/-- A single action that starts no pairing. -/
theorem of {action : Action} (other : action ≠ .emit .pairingStarted) :
    (Procedure.of action).Failing fun _ => True :=
  ⟨other, fun _ => True.intro⟩

/-- Procedures one after the other. -/
theorem bind {first : Procedure First} {second : First → Procedure Second}
    (begins : first.Failing failed)
    (continues : ∀ value, failed value → (second value).Failing lost) :
    (first >>= second).Failing lost := by
  induction first with
  | done value => exact continues value begins
  | act action next inductionHypothesis =>
    exact ⟨begins.1, fun reply => inductionHypothesis reply (begins.2 reply)⟩
  | await bound targets next inductionHypothesis =>
    exact fun verdict => inductionHypothesis verdict (begins verdict)

end Failing

namespace Holding

/-- Dropping the key. -/
theorem clearKey (held : Bool → Prop) : Procedure.clearKey.Holding held fun _ => True :=
  ⟨nofun, fun _ _ => True.intro⟩

/-- Procedures one after the other. -/
theorem bind {first : Procedure First} {second : First → Procedure Second}
    (begins : first.Holding held failed)
    (continues : ∀ value, held value → (second value).Holding kept lost)
    (fails : ∀ value, failed value → (second value).Failing lost) :
    (first >>= second).Holding kept lost := by
  induction first with
  | done value => exact continues value begins
  | act action next inductionHypothesis =>
    refine ⟨begins.1, fun reply keyed => ?_⟩
    have rest := begins.2 reply keyed
    split at rest
    · rename_i drops
      simp only [drops, if_true]
      exact rest.bind fails
    · rename_i keeps
      simp only [keeps]
      exact inductionHypothesis reply rest
  | await bound targets next inductionHypothesis =>
    exact fun verdict => inductionHypothesis verdict (begins verdict)

end Holding

/-- No pairing is started and no key is dropped. -/
def Plain (procedure : Procedure First) : Prop :=
  procedure.Holding (fun _ => True) fun _ => False

namespace Plain

/-- The end. -/
theorem done (value : First) : (pure value : Procedure First).Plain :=
  True.intro

/-- A single action that starts no pairing and leaves the key alone. -/
theorem of {action : Action} (other : action ≠ .emit .pairingStarted)
    (keeps : action.dropsKey = false) : (Procedure.of action).Plain :=
  ⟨other, fun _ _ => by simp [keeps, Holding]⟩

/-- Procedures one after the other. -/
theorem bind {first : Procedure First} {second : First → Procedure Second} (begins : first.Plain)
    (continues : ∀ value, (second value).Plain) : (first >>= second).Plain :=
  Holding.bind begins (fun value _ => continues value) fun _ impossible => impossible.elim

/-- Something holding behind it. -/
theorem holds {first : Procedure First} {second : First → Procedure Second} (begins : first.Plain)
    (continues : ∀ value, (second value).Holding kept lost) :
    (first >>= second).Holding kept lost :=
  Holding.bind begins (fun value _ => continues value) fun _ impossible => impossible.elim

/-- Attempts one after the other. -/
theorem attempt {first : Attempt First} {second : First → Attempt Second}
    (begins : first.run.Plain) (continues : ∀ value, (second value).run.Plain) :
    (first >>= second).run.Plain := by
  refine begins.bind fun result => ?_
  cases result with
  | error failure => exact done _
  | ok value => exact continues value

end Plain

end Procedure

namespace Step

open Procedure

/-- The wait of a step. -/
theorem settle_plain (bound : Nat) (step : String) (epoch : Nat) (targets : List Link.Phase) :
    (settle bound step epoch targets).Plain := by
  refine Plain.bind (fun _ => True.intro : (Procedure.wait bound targets).Plain) fun verdict => ?_
  cases verdict with
  | reached phase =>
    cases phase with
    | fail =>
      refine Plain.bind (.of nofun rfl) fun current => Plain.bind (.of nofun rfl) fun error => ?_
      split
      · exact .done _
      · exact .done _
    | new => exact .done _
    | queued => exact .done _
    | sent => exact .done _
    | success => exact .done _
  | timedOut =>
    exact Plain.bind (.of nofun rfl) fun _ => Plain.bind (.of nofun rfl) fun _ => .done _
  | cancelled => exact .done _

/-- A step that writes. -/
theorem write_plain (bound : Nat) (step : String) (characteristic : Link.Characteristic)
    (value : Bytes) : (write bound step characteristic value).run.Plain := by
  have call (completion : Link.Completion) :
      (Procedure.write characteristic value completion).Plain := by
    have taken : (Procedure.of (.write characteristic value completion)).Plain := .of nofun rfl
    exact taken.bind fun _ => .of nofun rfl
  exact Plain.bind (.of nofun rfl) fun _ => Plain.bind (.of nofun rfl) fun epoch =>
    Plain.bind (.of nofun rfl) fun completion => (call completion).bind fun _ =>
      (settle_plain bound step epoch _).bind fun _ => Plain.bind (.of nofun rfl) fun _ => .done _

/-- A step that reads. -/
theorem read_plain (bound : Nat) (step : String) (characteristic : Link.Characteristic) :
    (read bound step characteristic).run.Plain := by
  have call (completion : Link.Completion) :
      (Procedure.read characteristic completion).Plain := by
    have taken : (Procedure.of (.read characteristic completion)).Plain := .of nofun rfl
    exact taken.bind fun _ => .of nofun rfl
  refine Plain.bind (.of nofun rfl) fun _ => Plain.bind (.of nofun rfl) fun epoch =>
    Plain.bind (.of nofun rfl) fun completion => (call completion).bind fun _ =>
      (settle_plain bound step epoch _).bind fun _ => Plain.bind (.of nofun rfl) fun _ =>
        Plain.bind (.of nofun rfl) fun _ => ?_
  split
  · exact .done _
  · exact .done _
  · exact .done _

end Step

namespace Controller

open Procedure

variable (controller : Controller)

/-- The end of an operation is a failure. -/
def Failed {First Second : Type} (ended : Except Failure First × Second) : Prop :=
  ∃ failure, ended.1 = .error failure

/-- Giving up is all that drops the key. -/
theorem abort_holding (failure : Failure) :
    (abort failure).Holding (fun _ => True) fun _ => True := by
  have dropping : disconnect.Holding (fun _ => True) fun _ => True := by
    refine Holding.bind (Holding.clearKey fun _ => False) (fun _ impossible => impossible.elim)
      fun had _ => Failing.bind (Failing.of nofun) fun _ _ => ?_
    cases had with
    | false => exact True.intro
    | true => exact Failing.bind (Failing.of nofun) fun _ _ => Failing.of nofun
  refine Plain.holds (.of nofun rfl) fun torn => ?_
  cases torn with
  | true => exact True.intro
  | false =>
    refine Plain.holds (.of nofun rfl) fun _ => ?_
    have anew : Procedure.reset.Holding (fun _ => True) fun _ => True :=
      ⟨nofun, fun _ _ => True.intro⟩
    cases failure.requiresDisconnect with
    | true => exact dropping.bind (fun _ _ => anew) fun _ _ => Failing.of nofun
    | false => exact anew

/-- An operation that gives up fails. -/
theorem abort_fails {First Second : Type} (failure : Failure) (value : Second) :
    (do abort failure; return (.error failure, value) :
      Procedure (Except Failure First × Second)).Holding (fun _ => True) Failed :=
  (abort_holding failure).bind (fun _ _ => True.intro) fun _ _ => ⟨failure, rfl⟩

/-- What an operation gives makes no difference. -/
theorem holding_map {First Value : Type} {operation : Procedure (Except Failure First × Value)}
    (holding : operation.Holding (fun _ => True) Failed) (change : First → Answer) :
    (do
      let (result, changed) ← operation
      return (result.map change, changed)).Holding (fun _ => True) Failed := by
  refine holding.bind (fun _ _ => True.intro) fun ended failed => ?_
  obtain ⟨failure, same⟩ := failed
  exact ⟨failure, congrArg (Except.map change) same⟩

/-- Asking for the key. -/
theorem requireKey_plain : controller.requireKey.run.Plain := by
  refine Plain.bind (.of nofun rfl) fun held => ?_
  cases held with
  | none => exact .done _
  | some key => exact .done _

/-- A command. -/
theorem send_holding (meshId : UInt16) (command : Light.Command) :
    (controller.send meshId command).Holding (fun _ => True) Failed := by
  have delivered : (controller.deliver meshId command).Plain := by
    refine controller.requireKey_plain.bind fun required => ?_
    cases required with
    | error failure => exact .done _
    | ok key =>
      simp only
      split
      · exact .done _
      · exact (Step.write_plain _ _ _ _).bind fun _ => .done _
  refine delivered.holds fun ended => ?_
  obtain ⟨result, drawn⟩ := ended
  cases result with
  | ok _ =>
    exact Plain.holds (.of nofun rfl) fun _ => Plain.holds (.of nofun rfl) fun _ => True.intro
  | error failure =>
    exact Plain.holds (.of nofun rfl) fun _ => Plain.holds (.of nofun rfl) fun _ =>
      abort_fails failure drawn

/-- Reading the status. -/
theorem readStatus_holding :
    controller.readStatus.Holding (fun _ => True) fun result =>
      ∃ failure, result = .error failure := by
  have fetched : controller.fetchStatus.run.Plain := by
    refine controller.requireKey_plain.attempt fun key => ?_
    refine Plain.attempt (Step.read_plain _ _ _) fun frame => ?_
    cases Frame.decodeNotification key controller.address frame with
    | error fault => exact .done _
    | ok notification => exact .done _
  refine fetched.holds fun result => ?_
  cases result with
  | ok _ =>
    exact Plain.holds (.of nofun rfl) fun _ => Plain.holds (.of nofun rfl) fun _ => True.intro
  | error failure =>
    exact (abort_holding failure).bind (fun _ _ => True.intro) fun _ _ => ⟨failure, rfl⟩

/-- A move. -/
theorem migrate_holding (credentials : Credentials) (longTermKey : Bytes) :
    (controller.migrate credentials longTermKey).Holding (fun _ => True) Failed := by
  have written (frames : List Bytes) : (controller.writeAll frames).run.Plain := by
    induction frames with
    | nil => exact .done _
    | cons frame frames inductionHypothesis =>
      exact Plain.attempt (Step.write_plain _ _ _ _) fun _ => inductionHypothesis
  have announced (frames : List Bytes) : (controller.announce frames).run.Plain := by
    refine (written frames).attempt fun _ => Plain.attempt (Step.read_plain _ _ _) fun reply => ?_
    cases reply with
    | nil => exact .done _
    | cons tag rest =>
      simp only
      split
      · exact .done _
      · exact .done _
  refine controller.requireKey_plain.holds fun required => ?_
  cases required with
  | error failure => exact True.intro
  | ok key =>
    simp only
    split
    · exact True.intro
    · rename_i frames _
      refine (announced frames).holds fun result => ?_
      cases result with
      | ok _ => exact Plain.holds (.of nofun rfl) fun _ => True.intro
      | error failure => exact abort_fails failure controller

/-- Every operation but a pairing holds. -/
theorem perform_holding (meshId : UInt16) {request : Request} (other : request ≠ .pair) :
    (controller.perform meshId request).Holding (fun _ => True) Failed := by
  cases request with
  | pair => exact absurd rfl other
  | light command => exact holding_map (controller.send_holding meshId command) _
  | status =>
    refine controller.readStatus_holding.bind (fun _ _ => True.intro) fun result failed => ?_
    obtain ⟨failure, rfl⟩ := failed
    exact ⟨failure, rfl⟩
  | migrate credentials longTermKey =>
    exact holding_map (controller.migrate_holding credentials longTermKey) _

/-- So does a pairing for a ready link: it finds the key. -/
theorem greet_holding : controller.greet.Holding (fun _ => True) Failed := by
  have asked : Procedure.sessionKey.Holding (fun held => held ≠ none) fun _ => False :=
    ⟨nofun, fun _ keyed => keyed⟩
  refine asked.bind (fun held keyed => ?_) fun _ impossible => impossible.elim
  cases held with
  | none => exact absurd rfl keyed
  | some key => exact True.intro

end Controller

end MeshLight.Session
