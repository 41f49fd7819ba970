import MeshLight.Link.Bench

/-!
# Scripted transports

A script says for every call of the transport what happens while the call is under way: which
disturbances come first, what is reported through the completion if anything, and which disturbances
come last. Disturbances are losses of the link and cancellations, in any number and order. A report
may be of the wrong kind.

Any transport whose calls end at once behaves on a single run like some script, so what holds of
every script holds of every such transport. The transport of a script writes down each contact
together with the tracker that it found.
-/

namespace MeshLight.Link

/-- Something that another party does to the tracker: the link is lost, or the tracker is torn
down. -/
inductive Disturbance where
  | linkLost
  | cancel
  deriving Repr, DecidableEq

/-- The tracker after a disturbance. -/
def Disturbance.apply : Disturbance → Tracker → Tracker
  | .linkLost, tracker => tracker.linkLost.2
  | .cancel, tracker => tracker.cancel

/-- The tracker after disturbances, first one first. -/
def Tracker.disturb (disturbances : List Disturbance) (tracker : Tracker) : Tracker :=
  disturbances.foldl (fun current disturbance => disturbance.apply current) tracker

/-- What happens during one call of the transport: disturbances, a report through the completion of
the call unless it is never completed, and disturbances after it. -/
structure Turn where
  before : List Disturbance := []
  report : Option Report := none
  after : List Disturbance := []
  deriving Repr, DecidableEq

namespace Turn

/-- All disturbances of a turn, first one first. -/
def disturbances (turn : Turn) : List Disturbance :=
  turn.before ++ turn.after

/-- The tracker after a call that hands out a completion. -/
def apply (completion : Completion) (turn : Turn) (tracker : Tracker) : Tracker :=
  let reached := tracker.disturb turn.before
  let completed :=
    match turn.report with
    | none => reached
    | some report => (reached.complete completion report).2
  completed.disturb turn.after

end Turn

/-- One call of the transport with the tracker that it found. A write or a read was given a
completion. -/
inductive Contact where
  | access (asked : Access) (completion : Completion) (found : Tracker)
  | disconnect (found : Tracker)
  deriving Repr, DecidableEq

namespace Contact

/-- Whether the link was to be dropped. -/
def isDisconnect : Contact → Bool
  | .access .. => false
  | .disconnect _ => true

/-- What was asked for by a write or a read. -/
def access? : Contact → Option Access
  | .access asked _ _ => some asked
  | .disconnect _ => none

/-- The completion that was handed out. -/
def completion? : Contact → Option Completion
  | .access _ completion _ => some completion
  | .disconnect _ => none

end Contact

/-- What happens during each call, by the number of calls before it. -/
abbrev Script := Nat → Turn

namespace Script

/-- Makes contact: the turn takes place and the contact is written down. -/
def meet (script : Script) (access : Access) (completion : Completion) :
    List Contact × Tracker → List Contact × Tracker
  | (contacts, tracker) =>
    (contacts ++ [.access access completion tracker],
      (script contacts.length).apply completion tracker)

/-- The transport that follows a script and writes down every contact. A request to drop the link is
never completed, so only the disturbances of its turn take place. -/
def transport (script : Script) : Transport (List Contact) where
  write characteristic value := script.meet (.write characteristic value)
  read characteristic := script.meet (.read characteristic)
  disconnect := fun (contacts, tracker) =>
    (contacts ++ [.disconnect tracker],
      tracker.disturb (script contacts.length).disturbances)

end Script

/-- What a transport does when it takes a call. -/
def Transport.take {State : Type} (transport : Transport State) :
    Access → Completion → State × Tracker → State × Tracker
  | .write characteristic value => transport.write characteristic value
  | .read characteristic => transport.read characteristic

/-- A script meets every call alike. -/
@[simp] theorem Script.take_transport (script : Script) (access : Access) :
    script.transport.take access = script.meet access := by
  cases access <;> rfl

namespace Tracker

variable (disturbances : List Disturbance) (tracker : Tracker)

/-- A disturbance and then the others. -/
@[simp] theorem disturb_cons (disturbance : Disturbance) :
    tracker.disturb (disturbance :: disturbances) =
      (disturbance.apply tracker).disturb disturbances := rfl

@[simp] theorem disturb_nil : tracker.disturb [] = tracker := rfl

/-- Disturbances in two groups. -/
theorem disturb_append (later : List Disturbance) :
    tracker.disturb (disturbances ++ later) = (tracker.disturb disturbances).disturb later :=
  List.foldl_append

/-- No disturbance ends a cycle. -/
@[simp] theorem disturb_cycle : (tracker.disturb disturbances).cycle = tracker.cycle := by
  induction disturbances generalizing tracker with
  | nil => rfl
  | cons disturbance later inductionHypothesis =>
    rw [disturb_cons, inductionHypothesis]
    cases disturbance with
    | linkLost => simp only [Disturbance.apply, linkLost]; split <;> rfl
    | cancel => rfl

/-- Every lost link is counted. -/
@[simp] theorem disturb_epoch :
    (tracker.disturb disturbances).epoch = tracker.epoch + disturbances.count .linkLost := by
  induction disturbances generalizing tracker with
  | nil => rfl
  | cons disturbance later inductionHypothesis =>
    rw [disturb_cons, inductionHypothesis]
    cases disturbance with
    | linkLost =>
      have counted : (Disturbance.linkLost.apply tracker).epoch = tracker.epoch + 1 := by
        simp only [Disturbance.apply, linkLost]; split <;> rfl
      rw [counted, List.count_cons_self]
      omega
    | cancel => simp [Disturbance.apply, cancel]

/-- Only a cancellation sets the mark of being cancelled. -/
@[simp] theorem disturb_cancelled :
    (tracker.disturb disturbances).cancelled =
      (tracker.cancelled || decide (.cancel ∈ disturbances)) := by
  induction disturbances generalizing tracker with
  | nil => simp
  | cons disturbance later inductionHypothesis =>
    rw [disturb_cons, inductionHypothesis]
    cases disturbance with
    | linkLost =>
      have same : (Disturbance.linkLost.apply tracker).cancelled = tracker.cancelled := by
        simp only [Disturbance.apply, linkLost]; split <;> rfl
      simp [same]
    | cancel => simp [Disturbance.apply, cancel]

/-- Any disturbance at all drops the key. -/
@[simp] theorem disturb_key :
    (tracker.disturb disturbances).key = if disturbances = [] then tracker.key else none := by
  induction disturbances generalizing tracker with
  | nil => rfl
  | cons disturbance later inductionHypothesis =>
    have dropped : (disturbance.apply tracker).key = none := by
      cases disturbance with
      | linkLost => simp only [Disturbance.apply, linkLost]; split <;> rfl
      | cancel => rfl
    rw [disturb_cons, inductionHypothesis, dropped]
    simp

/-- Only a cancellation drops the bytes of a read. -/
@[simp] theorem disturb_response :
    (tracker.disturb disturbances).response =
      if .cancel ∈ disturbances then none else tracker.response := by
  induction disturbances generalizing tracker with
  | nil => simp
  | cons disturbance later inductionHypothesis =>
    rw [disturb_cons, inductionHypothesis]
    cases disturbance with
    | linkLost =>
      have same : (Disturbance.linkLost.apply tracker).response = tracker.response := by
        simp only [Disturbance.apply, linkLost]; split <;> rfl
      simp [same]
    | cancel => simp [Disturbance.apply, cancel]

/-- A lost link fails an operation that the transport still has; nothing else moves a phase. -/
theorem disturb_phase :
    (tracker.disturb disturbances).phase =
      if tracker.phase = .queued ∧ .linkLost ∈ disturbances then .fail else tracker.phase := by
  induction disturbances generalizing tracker with
  | nil => simp
  | cons disturbance later inductionHypothesis =>
    rw [disturb_cons, inductionHypothesis]
    cases disturbance with
    | linkLost =>
      by_cases queued : tracker.phase = .queued <;> simp [Disturbance.apply, linkLost, queued]
    | cancel =>
      by_cases lost : .linkLost ∈ later <;> simp [Disturbance.apply, cancel, lost]

/-- The error that a lost link leaves behind, where it fails an operation. -/
theorem disturb_error :
    (tracker.disturb disturbances).error =
      if tracker.phase = .queued ∧ .linkLost ∈ disturbances then some "link lost"
      else tracker.error := by
  induction disturbances generalizing tracker with
  | nil => simp
  | cons disturbance later inductionHypothesis =>
    rw [disturb_cons, inductionHypothesis]
    cases disturbance with
    | linkLost =>
      by_cases queued : tracker.phase = .queued <;> simp [Disturbance.apply, linkLost, queued]
    | cancel =>
      by_cases lost : .linkLost ∈ later <;> simp [Disturbance.apply, cancel, lost]

/-- A report says nothing about the key, the cycle, the losses or a cancellation. -/
theorem complete_frame (completion : Completion) (report : Report) :
    (tracker.complete completion report).2.key = tracker.key ∧
      (tracker.complete completion report).2.cycle = tracker.cycle ∧
      (tracker.complete completion report).2.epoch = tracker.epoch ∧
      (tracker.complete completion report).2.cancelled = tracker.cancelled := by
  unfold complete
  split <;> simp

end Tracker

namespace Turn

variable (completion : Completion) (turn : Turn) (tracker : Tracker)

/-- A turn counts its losses, remembers a cancellation, and drops the key if it has any disturbance;
it ends no cycle. -/
theorem apply_frame :
    (turn.apply completion tracker).cycle = tracker.cycle ∧
      (turn.apply completion tracker).epoch =
        tracker.epoch + turn.disturbances.count .linkLost ∧
      (turn.apply completion tracker).key =
        (if turn.disturbances = [] then tracker.key else none) ∧
      (turn.apply completion tracker).cancelled =
        (tracker.cancelled || decide (.cancel ∈ turn.disturbances)) := by
  have middle : ∃ completed : Tracker,
      turn.apply completion tracker = completed.disturb turn.after ∧
        completed.key = (tracker.disturb turn.before).key ∧
        completed.cycle = (tracker.disturb turn.before).cycle ∧
        completed.epoch = (tracker.disturb turn.before).epoch ∧
        completed.cancelled = (tracker.disturb turn.before).cancelled := by
    cases reported : turn.report with
    | none =>
      exact ⟨tracker.disturb turn.before, by simp [apply, reported], rfl, rfl, rfl, rfl⟩
    | some report =>
      exact ⟨((tracker.disturb turn.before).complete completion report).2,
        by simp [apply, reported], Tracker.complete_frame _ completion report⟩
  obtain ⟨completed, applied, key, cycle, epoch, cancelled⟩ := middle
  rw [applied]
  refine ⟨?_, ?_, ?_, ?_⟩
  · rw [Tracker.disturb_cycle, cycle, Tracker.disturb_cycle]
  · rw [Tracker.disturb_epoch, epoch, Tracker.disturb_epoch, disturbances, List.count_append,
      Nat.add_assoc]
  · rw [Tracker.disturb_key, key, Tracker.disturb_key, disturbances]
    by_cases early : turn.before = [] <;> by_cases late : turn.after = [] <;> simp [early, late]
  · rw [Tracker.disturb_cancelled, cancelled, Tracker.disturb_cancelled, disturbances]
    simp [Bool.or_assoc]

/-- A link lost before the report fails the operation; the report comes to nothing. -/
theorem apply_lost (queued : tracker.phase = .queued) (lost : .linkLost ∈ turn.before) :
    (turn.apply completion tracker).phase = .fail ∧
      (turn.apply completion tracker).error = some "link lost" := by
  have failed : (tracker.disturb turn.before).phase = .fail := by
    simp [Tracker.disturb_phase, queued, lost]
  have said : (tracker.disturb turn.before).error = some "link lost" := by
    simp [Tracker.disturb_error, queued, lost]
  have refused (report : Report) :
      ((tracker.disturb turn.before).complete completion report).2 =
        tracker.disturb turn.before := by
    cases report <;> simp [Tracker.complete, Report.admitted, failed]
  have reached : turn.apply completion tracker =
      (tracker.disturb turn.before).disturb turn.after := by
    unfold apply
    cases turn.report with
    | none => rfl
    | some report => simp [refused]
  rw [reached, Tracker.disturb_phase, Tracker.disturb_error]
  simp [failed, said]

/-- An operation that is never completed stays with the transport unless the link is lost. -/
theorem apply_silent (queued : tracker.phase = .queued) (kept : .linkLost ∉ turn.before)
    (silent : turn.report = none) :
    (turn.apply completion tracker).phase =
        (if .linkLost ∈ turn.after then .fail else .queued) := by
  have waiting : (tracker.disturb turn.before).phase = .queued := by
    simp [Tracker.disturb_phase, queued, kept]
  have reached : turn.apply completion tracker =
      (tracker.disturb turn.before).disturb turn.after := by
    simp [apply, silent]
  rw [reached, Tracker.disturb_phase]
  simp [waiting]

/-- A report in time decides, and no later disturbance takes back what it decided; a cancellation
still drops the bytes. -/
theorem apply_reported (queued : tracker.phase = .queued) (cycle : tracker.cycle = completion.cycle)
    (kept : .linkLost ∉ turn.before) (report : Report) (reported : turn.report = some report) :
    (turn.apply completion tracker).phase = report.phase ∧
      (turn.apply completion tracker).error = report.error ∧
      (turn.apply completion tracker).response =
        (if .cancel ∈ turn.after then none else report.response) := by
  have waiting : (tracker.disturb turn.before).phase = .queued := by
    simp [Tracker.disturb_phase, queued, kept]
  have accepted : ((tracker.disturb turn.before).complete completion report).2 =
      { tracker.disturb turn.before with
        phase := report.phase, response := report.response, error := report.error } := by
    cases report <;> simp [Tracker.complete, Report.admitted, waiting, cycle]
  have decided : report.phase ≠ .queued := by cases report <;> simp [Report.phase]
  have reached : turn.apply completion tracker =
      ({ tracker.disturb turn.before with
        phase := report.phase, response := report.response,
        error := report.error } : Tracker).disturb turn.after := by
    simp [apply, reported, accepted]
  rw [reached, Tracker.disturb_phase, Tracker.disturb_error, Tracker.disturb_response]
  simp [decided]

end Turn

end MeshLight.Link
