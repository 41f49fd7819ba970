import MeshLight.Proofs.Session.Stray

/-!
# The numbers of cycles go unnoticed

Cycles are numbered so that a completion can be told from the ones before it; nothing else depends
on the number. Two worlds that differ in the number of the current cycle, and in the numbers that
their contacts handed out, are alike: whatever makes its calls in whole steps gives the same result
in both, asks the transport for the same, and leaves them alike. What was reported so far makes no
difference either.
-/

namespace MeshLight.Link

variable (tracker : Tracker)

/-- The tracker with another number for the current cycle. -/
def Tracker.renumber (cycle : Nat) (tracker : Tracker) : Tracker :=
  { tracker with cycle }

/-- A disturbance does the same under any number. -/
theorem Disturbance.apply_renumber (disturbance : Disturbance) (cycle : Nat) :
    disturbance.apply (tracker.renumber cycle) = (disturbance.apply tracker).renumber cycle := by
  cases disturbance with
  | linkLost =>
    by_cases queued : tracker.phase = .queued <;>
      simp [Disturbance.apply, Tracker.linkLost, Tracker.renumber, queued]
  | cancel => rfl

/-- So do any disturbances. -/
theorem Tracker.disturb_renumber (disturbances : List Disturbance) (cycle : Nat) :
    (tracker.renumber cycle).disturb disturbances =
      (tracker.disturb disturbances).renumber cycle := by
  induction disturbances generalizing tracker with
  | nil => rfl
  | cons disturbance later inductionHypothesis =>
    rw [disturb_cons, disturb_cons, disturbance.apply_renumber, inductionHypothesis]

end MeshLight.Link

namespace MeshLight.Session

open Link (Characteristic Contact Ledger Script StrayScript Tracker)

/-- Two worlds whose trackers differ in the number of the cycle at most, and whose transports were
asked for the same. -/
structure Alike (first second : World (List Contact)) : Prop where
  tracker : ∃ cycle, second.tracker = first.tracker.renumber cycle
  calls : second.transport.map Contact.access? = first.transport.map Contact.access?

namespace Alike

/-- A world is like itself. -/
theorem refl (world : World (List Contact)) : Alike world world :=
  ⟨⟨world.tracker.cycle, rfl⟩, rfl⟩

/-- Of three worlds, if the first is like two, those are alike. -/
theorem euclidean {first second third : World (List Contact)} (left : Alike first second)
    (right : Alike first third) : Alike second third := by
  obtain ⟨⟨_, second⟩, calls⟩ := left
  obtain ⟨⟨cycle, third⟩, others⟩ := right
  exact ⟨⟨cycle, by rw [second, third]; rfl⟩, others.trans calls.symm⟩

variable {first second : World (List Contact)} (alike : Alike first second)

include alike

/-- The transport was asked equally often. -/
theorem length : second.transport.length = first.transport.length := by
  simpa using congrArg List.length alike.calls

end Alike

/-- A procedure gives the same result in worlds that are alike, and leaves them alike. -/
def Unnumbered (script : Script) {Value : Type} (procedure : Procedure Value) : Prop :=
  ∀ first second, Alike first second →
    (procedure.finish script.transport second).1 = (procedure.finish script.transport first).1 ∧
      Alike (procedure.finish script.transport first).2 (procedure.finish script.transport second).2

namespace Unnumbered

variable (script : Script)

/-- An action that does the same to the tracker under any number. -/
theorem of_tracker {action : Action} (change : Tracker → action.Reply × Tracker)
    (performs : ∀ world : World (List Contact),
      action.perform script.transport world = world.onTracker change)
    (blind : ∀ tracker cycle, (change (tracker.renumber cycle)).1 = (change tracker).1 ∧
      ∃ later, (change (tracker.renumber cycle)).2 = (change tracker).2.renumber later) :
    Unnumbered script (Procedure.of action) := by
  intro first second alike
  have run (world : World (List Contact)) :
      (Procedure.of action).finish script.transport world = world.onTracker change :=
    performs world
  obtain ⟨cycle, renumbered⟩ := alike.tracker
  obtain ⟨reply, later⟩ := blind first.tracker cycle
  rw [run, run]
  simp only [World.onTracker, renumbered, reply, true_and]
  exact ⟨later, alike.calls⟩

/-- A harmless action. -/
theorem action (action : Action) (harmless : action.harmless = true) :
    Unnumbered script (Procedure.of action) := by
  cases action with
  | reset =>
    exact of_tracker script (fun tracker => ((), tracker.reset)) (fun _ => rfl)
      fun _ cycle => ⟨rfl, cycle + 1, rfl⟩
  | setPhase phase =>
    exact of_tracker script (fun tracker => ((), tracker.setPhase phase)) (fun _ => rfl)
      fun _ cycle => ⟨rfl, cycle, rfl⟩
  | lossCount =>
    exact of_tracker script (fun tracker => (tracker.epoch, tracker)) (fun _ => rfl)
      fun _ cycle => ⟨rfl, cycle, rfl⟩
  | takeResponse =>
    exact of_tracker script Tracker.takeResponse (fun _ => rfl) fun _ cycle => ⟨rfl, cycle, rfl⟩
  | takeError =>
    exact of_tracker script Tracker.takeError (fun _ => rfl) fun _ cycle => ⟨rfl, cycle, rfl⟩
  | sessionKey =>
    exact of_tracker script (fun tracker => (tracker.key, tracker)) (fun _ => rfl)
      fun _ cycle => ⟨rfl, cycle, rfl⟩
  | clearKey =>
    exact of_tracker script Tracker.clearKey (fun _ => rfl) fun _ cycle => ⟨rfl, cycle, rfl⟩
  | isCancelled =>
    exact of_tracker script (fun tracker => (tracker.cancelled, tracker)) (fun _ => rfl)
      fun _ cycle => ⟨rfl, cycle, rfl⟩
  | emit event => exact fun _ _ alike => ⟨rfl, alike.tracker, alike.calls⟩
  | count counted => exact fun _ _ alike => ⟨rfl, alike.tracker, alike.calls⟩
  | queue => cases harmless
  | installKey key epoch => cases harmless
  | write characteristic value completion => cases harmless
  | read characteristic completion => cases harmless
  | callReturn => cases harmless
  | disconnect => cases harmless

/-- The installation of a key compares losses, not cycles. -/
theorem installKey (key : SessionKey) (epoch : Nat) :
    Unnumbered script (Procedure.installKey key epoch) := by
  refine of_tracker script (Tracker.installKey key epoch) (fun _ => rfl) fun tracker cycle => ?_
  by_cases refused : tracker.cancelled = true ∨ tracker.epoch ≠ epoch <;>
    exact ⟨by simp [Tracker.installKey, Tracker.renumber, refused],
      cycle, by simp [Tracker.installKey, Tracker.renumber, refused]⟩

/-- A request to drop the link. -/
theorem drop : Unnumbered script Procedure.disconnect := by
  intro first second alike
  obtain ⟨cycle, renumbered⟩ := alike.tracker
  simp only [Procedure.finish_disconnect, World.onTransport, Script.transport, alike.length,
    true_and]
  refine ⟨⟨cycle, ?_⟩, ?_⟩
  · rw [renumbered]
    exact first.tracker.disturb_renumber _ cycle
  · simp only [List.map_append, alike.calls]
    rfl

variable {script} in
/-- Procedures one after the other. -/
theorem bind {First Second : Type} {before : Procedure First}
    {after : First → Procedure Second} (begins : Unnumbered script before)
    (continues : ∀ value, Unnumbered script (after value)) :
    Unnumbered script (before >>= after) := by
  intro first second alike
  obtain ⟨same, middle⟩ := begins first second alike
  rw [Procedure.finish_bind, Procedure.finish_bind, same]
  exact continues _ _ _ middle

/-- Dropping the key and the link. -/
theorem disconnect : Unnumbered script Controller.disconnect := by
  refine (action script .clearKey rfl).bind fun had => (drop script).bind fun _ => ?_
  split
  · exact (action script (.count .disconnect) rfl).bind fun _ =>
      action script (.emit .disconnected) rfl
  · exact fun _ _ alike => ⟨rfl, alike⟩

/-- Behind a step worlds are alike again: both made the same call, and its turn did the same. -/
theorem behind {first second : World (List Contact)} (alike : Alike first second) {Value : Type}
    (access : Link.Access) (outcome : Except Failure Value) :
    Alike (Step.behind script access outcome first) (Step.behind script access outcome second) := by
  obtain ⟨cycle, renumbered⟩ := alike.tracker
  refine ⟨⟨cycle + 2, ?_⟩, ?_⟩
  · simp only [Step.behind, alike.length, renumbered]
    rfl
  · simp only [Step.behind, List.map_append, alike.calls]
    rfl

/-- A step that writes. -/
theorem write (bound : Nat) (step : String) (characteristic : Characteristic) (value : Bytes) :
    Unnumbered script (Step.write bound step characteristic value).run := by
  intro first second alike
  obtain ⟨cycle, renumbered⟩ := alike.tracker
  have torn : second.tracker.cancelled = first.tracker.cancelled := by rw [renumbered]; rfl
  rw [Step.finish_scripted_write, Step.finish_scripted_write, alike.length, torn]
  exact ⟨rfl, behind script alike _ _⟩

/-- A step that reads. -/
theorem read (bound : Nat) (step : String) (characteristic : Characteristic) :
    Unnumbered script (Step.read bound step characteristic).run := by
  intro first second alike
  obtain ⟨cycle, renumbered⟩ := alike.tracker
  have torn : second.tracker.cancelled = first.tracker.cancelled := by rw [renumbered]; rfl
  rw [Step.finish_scripted_read, Step.finish_scripted_read, alike.length, torn]
  exact ⟨rfl, behind script alike _ _⟩

/-- Whatever makes its calls in whole steps does not notice the numbers. -/
theorem of_stepwise {permission : Permission} {Value : Type} {procedure : Procedure Value}
    (stepwise : Stepwise permission procedure) : Unnumbered script procedure := by
  induction stepwise with
  | done value => exact fun _ _ alike => ⟨rfl, alike⟩
  | action action harmless => exact Unnumbered.action script action harmless
  | installKey key epoch _ => exact installKey script key epoch
  | disconnect => exact disconnect script
  | write bound step characteristic value _ => exact write script bound step characteristic value
  | read bound step characteristic _ => exact read script bound step characteristic
  | bind _ _ begins continues => exact begins.bind continues

end Unnumbered

/-- Two worlds in which all completions are retired, alike up to the answers to stray reports. -/
structure Matched (first second : World Ledger) : Prop where
  left : Settled first
  right : Settled second
  alike : Alike first.quiet second.quiet

/-- With stray reports, too, the numbers go unnoticed. -/
theorem Matched.finish {first second : World Ledger} (matched : Matched first second)
    (script : StrayScript) {permission : Permission} {Value : Type} {procedure : Procedure Value}
    (stepwise : Stepwise permission procedure) :
    (procedure.finish script.transport second).1 = (procedure.finish script.transport first).1 ∧
      Matched (procedure.finish script.transport first).2
        (procedure.finish script.transport second).2 := by
  obtain ⟨left, sameLeft⟩ := Unnoticed.of_stepwise script stepwise first matched.left
  obtain ⟨right, sameRight⟩ := Unnoticed.of_stepwise script stepwise second matched.right
  obtain ⟨result, alike⟩ := Unnumbered.of_stepwise script.quiet stepwise _ _ matched.alike
  rw [sameLeft, sameRight] at result alike
  exact ⟨result, left, right, alike⟩

end MeshLight.Session
