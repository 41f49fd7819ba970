import MeshLight.Proofs.Link.Script
import MeshLight.Proofs.Session.Finish
import MeshLight.Session.Step

/-!
# How a step ends

First for any transport: a step hands over a fresh cycle, and what it gives is read off the tracker
as the call left it. Then for scripts: the outcome is a table over the turn of the call, and the
world behind the step is known up to the last field. Nothing of a step is left in the tracker but
the cycles it used, the losses it counted, and the key unless something dropped it.
-/

namespace MeshLight.Session

open Link (Phase Characteristic Completion Tracker Transport Report Turn Script Contact Access)

/-- Running into its bound is nothing that a wait finds in the tracker. -/
theorem verdict_never_timedOut (targets : List Phase) (tracker : Tracker) :
    tracker.verdict? targets ≠ some .timedOut := by
  unfold Tracker.verdict?
  split
  · simp
  · split <;> simp

namespace Step

variable {State : Type}

/-- What a wait says about the tracker that it ends with, in a step that began at a number of link
losses. -/
def judge (bound : Nat) (step : String) (epoch : Nat) (targets : List Phase) (tracker : Tracker) :
    Except Failure Unit :=
  match (tracker.verdict? targets).getD .timedOut with
  | .reached .fail =>
    if tracker.epoch = epoch then
      .error (.transport step (tracker.error.getD "operation failed"))
    else .error (.linkLost step)
  | .reached _ => .ok ()
  | .timedOut => .error (.timeout step bound)
  | .cancelled => .error .cancelled

/-- The tracker when the call of a step is made. -/
def handed (tracker : Tracker) : Tracker :=
  { tracker.reset with phase := .queued }

/-- The completion that a step hands out. -/
def issued (tracker : Tracker) : Completion :=
  ⟨tracker.cycle + 1⟩

/-- What a read gives for a judgement and the bytes that are there. -/
def brought (step : String) : Except Failure Unit → Option Bytes → Except Failure Bytes
  | .error failure, _ => .error failure
  | .ok _, none => .error (.protocol (step ++ ": no response data"))
  | .ok _, some bytes => .ok bytes

/-- The world after the call of a step. Both ends of the call belong to the transport: what it does
when the call is taken and what it does when the call returns. -/
def called (transport : Transport State) (access : Access) (world : World State) : World State :=
  ((world.withTracker (handed world.tracker)).onTransport
    (transport.take access (issued world.tracker))).onTransport transport.callReturn

/-- The world behind a step whose call left it like this. -/
def closed (step : String) (targets : List Phase) (world : World State) : World State :=
  { world with
    tracker := world.tracker.reset
    counts := world.counts ++
      if (world.tracker.verdict? targets).isNone then [.stepTimeout step] else [] }

/-- A wait gives its judgement. What it leaves behind in the tracker does not outlive the next
reset, and the bytes of a read stay. -/
theorem finish_settle (transport : Transport State) (world : World State) (bound : Nat)
    (step : String) (epoch : Nat) (targets : List Phase) :
    ∃ later, (settle bound step epoch targets).finish transport world =
        (judge bound step epoch targets world.tracker, later) ∧
      later.tracker.response = world.tracker.response ∧
      later.withTracker later.tracker.reset = closed step targets world := by
  simp only [settle, Procedure.finish_bind, Procedure.finish_wait, judge, closed]
  cases decided : world.tracker.verdict? targets with
  | none =>
    refine ⟨_, rfl, rfl, ?_⟩
    simp [World.withTracker, World.count, Tracker.setPhase, Tracker.reset]
  | some verdict =>
    cases verdict with
    | reached phase =>
      cases phase with
      | fail =>
        by_cases same : world.tracker.epoch = epoch
        · refine ⟨world.withTracker world.tracker.takeError.2, ?_, rfl, ?_⟩
          · simp [same]
          · simp [World.withTracker, Tracker.takeError, Tracker.reset]
        · refine ⟨world.withTracker world.tracker.takeError.2, ?_, rfl, ?_⟩
          · simp [same]
          · simp [World.withTracker, Tracker.takeError, Tracker.reset]
      | new => exact ⟨world, rfl, rfl, by simp [World.withTracker]⟩
      | queued => exact ⟨world, rfl, rfl, by simp [World.withTracker]⟩
      | sent => exact ⟨world, rfl, rfl, by simp [World.withTracker]⟩
      | success => exact ⟨world, rfl, rfl, by simp [World.withTracker]⟩
    | timedOut => exact absurd decided (verdict_never_timedOut targets world.tracker)
    | cancelled => exact ⟨world, rfl, rfl, by simp [World.withTracker]⟩

/-- A write hands a fresh cycle over, and the tracker that its call leaves decides. -/
theorem finish_write (transport : Transport State) (world : World State) (bound : Nat)
    (step : String) (characteristic : Characteristic) (value : Bytes) :
    (write bound step characteristic value).run.finish transport world =
      (judge bound step world.tracker.epoch [.sent, .fail]
          (called transport (.write characteristic value) world).tracker,
        closed step [.sent, .fail] (called transport (.write characteristic value) world)) := by
  obtain ⟨later, settled, -, closing⟩ :=
    finish_settle transport (called transport (.write characteristic value) world) bound step
      world.tracker.epoch [.sent, .fail]
  have opened : (write bound step characteristic value).run.finish transport world =
      (do
        let settled ← settle bound step world.tracker.epoch [.sent, .fail]
        Procedure.reset
        return settled : Procedure (Except Failure Unit)).finish transport
          (called transport (.write characteristic value) world) := rfl
  rw [opened]
  simp only [Procedure.finish_bind, Procedure.finish_reset, Procedure.finish_pure, settled, closing]

/-- A read hands a fresh cycle over, and the tracker that its call leaves decides and has the
bytes. -/
theorem finish_read (transport : Transport State) (world : World State) (bound : Nat)
    (step : String) (characteristic : Characteristic) :
    (read bound step characteristic).run.finish transport world =
      (brought step
          (judge bound step world.tracker.epoch [.success, .fail]
            (called transport (.read characteristic) world).tracker)
          (called transport (.read characteristic) world).tracker.response,
        closed step [.success, .fail] (called transport (.read characteristic) world)) := by
  obtain ⟨later, settled, kept, closing⟩ :=
    finish_settle transport (called transport (.read characteristic) world) bound step
      world.tracker.epoch [.success, .fail]
  have opened : (read bound step characteristic).run.finish transport world =
      (do
        let settled ← settle bound step world.tracker.epoch [.success, .fail]
        let response ← Procedure.takeResponse
        Procedure.reset
        match settled, response with
        | .error failure, _ => return .error failure
        | .ok _, none => return .error (.protocol (step ++ ": no response data"))
        | .ok _, some bytes => return .ok bytes :
          Procedure (Except Failure Bytes)).finish transport
            (called transport (.read characteristic) world) := rfl
  have closingToo : later.withTracker later.tracker.takeResponse.2.reset =
      closed step [.success, .fail] (called transport (.read characteristic) world) := closing
  rw [opened]
  simp only [Procedure.finish_bind, Procedure.finish_takeResponse, Procedure.finish_reset, settled,
    World.withTracker_tracker, World.withTracker_withTracker, closingToo, kept]
  cases judge bound step world.tracker.epoch [.success, .fail]
      (called transport (.read characteristic) world).tracker with
  | error failure => rfl
  | ok _ =>
    cases (called transport (.read characteristic) world).tracker.response with
    | none => rfl
    | some bytes => rfl

/-- How a step ends by the turn of its call: a cancellation wins over everything; a link lost before
the report over any report; a failure of the transport is a lost link if the link was lost too; and
a report that is not wanted is no report. -/
def outcome {Value : Type} (wanted : Report → Option Value) (bound : Nat) (step : String)
    (cancelled : Bool) (turn : Turn) : Except Failure Value :=
  if cancelled = true ∨ .cancel ∈ turn.disturbances then .error .cancelled
  else if .linkLost ∈ turn.before then .error (.linkLost step)
  else
    match turn.report with
    | none =>
      if .linkLost ∈ turn.after then .error (.linkLost step) else .error (.timeout step bound)
    | some report =>
      match report.error, wanted report with
      | some reason, _ =>
        if .linkLost ∈ turn.after then .error (.linkLost step) else .error (.transport step reason)
      | none, some value => .ok value
      | none, none => .error (.timeout step bound)

/-- The report that a write waits for. -/
def taken : Report → Option Unit
  | .written => some ()
  | _ => none

/-- What a step counts. -/
def counted {Value : Type} : Except Failure Value → List Report.Count
  | .error (.timeout step _) => [.stepTimeout step]
  | _ => []

/-- The tracker behind a step. -/
def settled (turn : Turn) (tracker : Tracker) : Tracker :=
  { phase := .new
    cycle := tracker.cycle + 2
    epoch := tracker.epoch + turn.disturbances.count .linkLost
    key := if turn.disturbances = [] then tracker.key else none
    response := none
    error := none
    cancelled := tracker.cancelled || decide (.cancel ∈ turn.disturbances) }

/-- The world behind a step that followed a script. -/
def behind {Value : Type} (script : Script) (access : Access) (outcome : Except Failure Value)
    (world : World (List Contact)) : World (List Contact) :=
  { tracker := settled (script world.transport.length) world.tracker
    transport :=
      world.transport ++ [.access access (issued world.tracker) (handed world.tracker)]
    events := world.events
    counts := world.counts ++ counted outcome }

section Scripted

variable {Value : Type} (wanted : Report → Option Value) (good : Phase) (bound : Nat)
  (step : String) (turn : Turn) (tracker : Tracker)

/-- The tracker that the call of a step leaves behind after a turn. -/
abbrev left (turn : Turn) (tracker : Tracker) : Tracker :=
  turn.apply (issued tracker) (handed tracker)

/-- The wait of a step says what the table says: the same outcome, and the bound was reached exactly
if the outcome is that it was. -/
def Tabled : Prop :=
  judge bound step tracker.epoch [good, .fail] (left turn tracker) =
      (outcome wanted bound step tracker.cancelled turn).map (fun _ => ()) ∧
    (if ((left turn tracker).verdict? [good, .fail]).isNone then [.stepTimeout step] else []) =
      counted (outcome wanted bound step tracker.cancelled turn)

/-- A step was torn down if it began so or if a cancellation came. -/
theorem left_cancelled :
    (left turn tracker).cancelled = true ↔
      tracker.cancelled = true ∨ .cancel ∈ turn.disturbances := by
  obtain ⟨-, -, -, cancelled⟩ := turn.apply_frame (issued tracker) (handed tracker)
  rw [cancelled]
  simp [handed, Tracker.reset]

/-- The losses stay as they were counted before exactly if the link is not lost meanwhile. -/
theorem left_epoch :
    (left turn tracker).epoch = tracker.epoch ↔ .linkLost ∉ turn.disturbances := by
  obtain ⟨-, epoch, -, -⟩ := turn.apply_frame (issued tracker) (handed tracker)
  have began : (handed tracker).epoch = tracker.epoch := rfl
  rw [epoch, began, ← List.count_eq_zero]
  omega

variable {wanted good bound step turn tracker}

/-- A cancellation is seen before anything else. -/
theorem tabled_torn (torn : tracker.cancelled = true ∨ .cancel ∈ turn.disturbances) :
    Tabled wanted good bound step turn tracker := by
  have seen : (left turn tracker).cancelled = true := (left_cancelled turn tracker).mpr torn
  simp [Tabled, judge, Tracker.verdict?, seen, outcome, torn, Except.map, counted]

section Running

variable (running : ¬(tracker.cancelled = true ∨ .cancel ∈ turn.disturbances))

include running

variable (good bound step)

/-- A step that fails is a lost link if the link was lost meanwhile. -/
theorem judge_failed (failed : (left turn tracker).phase = .fail) :
    judge bound step tracker.epoch [good, .fail] (left turn tracker) =
        (if .linkLost ∈ turn.disturbances then .error (.linkLost step)
          else .error (.transport step ((left turn tracker).error.getD "operation failed"))) ∧
      ((left turn tracker).verdict? [good, .fail]).isNone = false := by
  have unseen : (left turn tracker).cancelled = false := by
    simpa only [Bool.not_eq_true] using mt (left_cancelled turn tracker).mp running
  have epoch := left_epoch turn tracker
  by_cases lost : .linkLost ∈ turn.disturbances
  · have moved : (left turn tracker).epoch ≠ tracker.epoch := fun same => epoch.mp same lost
    simp [judge, Tracker.verdict?, unseen, failed, moved, lost]
  · have same : (left turn tracker).epoch = tracker.epoch := epoch.mpr lost
    simp [judge, Tracker.verdict?, unseen, failed, same, lost]

/-- A wait whose phases are not reached runs into its bound. -/
theorem judge_missed (missed : (left turn tracker).phase ≠ good)
    (unfailed : (left turn tracker).phase ≠ .fail) :
    judge bound step tracker.epoch [good, .fail] (left turn tracker) =
        .error (.timeout step bound) ∧
      ((left turn tracker).verdict? [good, .fail]).isNone = true := by
  have unseen : (left turn tracker).cancelled = false := by
    simpa only [Bool.not_eq_true] using mt (left_cancelled turn tracker).mp running
  simp [judge, Tracker.verdict?, unseen, missed, unfailed]

/-- A wait whose phase is reached succeeds. -/
theorem judge_reached (reached : (left turn tracker).phase = good) (unfailed : good ≠ .fail) :
    judge bound step tracker.epoch [good, .fail] (left turn tracker) = .ok () ∧
      ((left turn tracker).verdict? [good, .fail]).isNone = false := by
  have unseen : (left turn tracker).cancelled = false := by
    simpa only [Bool.not_eq_true] using mt (left_cancelled turn tracker).mp running
  cases good <;> simp_all [judge, Tracker.verdict?]

variable {good bound step}

/-- A link lost before the report decides the step. -/
theorem tabled_lost (lost : .linkLost ∈ turn.before) :
    Tabled wanted good bound step turn tracker := by
  obtain ⟨phase, -⟩ := turn.apply_lost (issued tracker) (handed tracker) rfl lost
  obtain ⟨judged, decided⟩ := judge_failed good bound step
    running phase
  have among : .linkLost ∈ turn.disturbances := List.mem_append_left _ lost
  rw [Tabled, judged, decided]
  simp [outcome, running, lost, among, Except.map, counted]

/-- Without a report the step waits for nothing but the loss of the link. -/
theorem tabled_silent (different : good ≠ .queued) (kept : .linkLost ∉ turn.before)
    (silent : turn.report = none) : Tabled wanted good bound step turn tracker := by
  have phase := turn.apply_silent (issued tracker) (handed tracker) rfl kept silent
  by_cases late : .linkLost ∈ turn.after
  · rw [if_pos late] at phase
    obtain ⟨judged, decided⟩ := judge_failed good bound step
      running phase
    have among : .linkLost ∈ turn.disturbances := List.mem_append_right _ late
    rw [Tabled, judged, decided]
    simp [outcome, running, kept, silent, late, among, Except.map, counted]
  · rw [if_neg late] at phase
    obtain ⟨judged, decided⟩ := judge_missed good bound step
      running (by rw [phase]; exact different.symm) (by simp [phase])
    rw [Tabled, judged, decided]
    simp [outcome, running, kept, silent, late, Except.map, counted]

/-- A failure of the transport decides the step; it is a lost link if the link was lost too. -/
theorem tabled_failed (kept : .linkLost ∉ turn.before) {report : Report} {reason : String}
    (reported : turn.report = some report) (failed : report.error = some reason) :
    Tabled wanted good bound step turn tracker := by
  obtain ⟨phase, error, -⟩ :=
    turn.apply_reported (issued tracker) (handed tracker) rfl rfl kept report reported
  have fail : report.phase = .fail := by cases report <;> simp_all [Report.phase, Report.error]
  obtain ⟨judged, decided⟩ := judge_failed good bound step
    running (phase.trans fail)
  have among : .linkLost ∈ turn.disturbances ↔ .linkLost ∈ turn.after := by
    simp [Turn.disturbances, kept]
  rw [Tabled, judged, decided, error, failed]
  by_cases late : .linkLost ∈ turn.after <;>
    simp [outcome, running, kept, reported, failed, among, late, Except.map, counted]

/-- A successful report decides the step if it is of the wanted kind; if not, the step waits on. -/
theorem tabled_succeeded (aligned : ∀ report : Report, report.error = none →
      ((wanted report).isSome = true ↔ report.phase = good))
    (different : good ≠ .fail) (kept : .linkLost ∉ turn.before) {report : Report}
    (reported : turn.report = some report) (succeeded : report.error = none) :
    Tabled wanted good bound step turn tracker := by
  obtain ⟨phase, -, -⟩ :=
    turn.apply_reported (issued tracker) (handed tracker) rfl rfl kept report reported
  have unfailed : report.phase ≠ .fail := by
    cases report <;> simp_all [Report.phase, Report.error]
  cases value : wanted report with
  | some content =>
    have reached : report.phase = good := (aligned report succeeded).mp (by simp [value])
    obtain ⟨judged, decided⟩ := judge_reached good bound step
      running (phase.trans reached) different
    rw [Tabled, judged, decided]
    simp [outcome, running, kept, reported, succeeded, value, Except.map, counted]
  | none =>
    have missed : report.phase ≠ good := fun same => by
      simpa [value] using (aligned report succeeded).mpr same
    obtain ⟨judged, decided⟩ := judge_missed good bound step
      running (by rwa [phase]) (by rwa [phase])
    rw [Tabled, judged, decided]
    simp [outcome, running, kept, reported, succeeded, value, Except.map, counted]

end Running

/-- The table holds for every turn. The phase waited for is the one to which the wanted reports
lead; the cases are those of the table, in its order. -/
theorem tabled (aligned : ∀ report : Report, report.error = none →
      ((wanted report).isSome = true ↔ report.phase = good))
    (different : good ≠ .fail ∧ good ≠ .queued) : Tabled wanted good bound step turn tracker := by
  by_cases torn : tracker.cancelled = true ∨ .cancel ∈ turn.disturbances
  · exact tabled_torn torn
  by_cases lost : .linkLost ∈ turn.before
  · exact tabled_lost torn lost
  cases reported : turn.report with
  | none => exact tabled_silent torn different.2 lost reported
  | some report =>
    cases failure : report.error with
    | some reason => exact tabled_failed torn lost reported failure
    | none => exact tabled_succeeded torn aligned different.1 lost reported failure

end Scripted

/-- The call of a scripted step leaves the tracker of its turn and one more contact. -/
theorem called_script (script : Script) (access : Access) (world : World (List Contact)) :
    called script.transport access world =
      { world with
        tracker := left (script world.transport.length) world.tracker
        transport :=
          world.transport ++ [.access access (issued world.tracker) (handed world.tracker)] } := by
  simp only [called, Script.take_transport]
  rfl

/-- Behind a step nothing is left of its turn but what the turn did to key, losses and mark. -/
theorem left_reset (turn : Turn) (tracker : Tracker) :
    (left turn tracker).reset = settled turn tracker := by
  obtain ⟨cycle, epoch, key, cancelled⟩ := turn.apply_frame (issued tracker) (handed tracker)
  simp only [Tracker.reset, settled, cycle, epoch, key, cancelled]
  rfl

/-- The world behind a scripted step, once its wait says what the table says. -/
theorem closed_called {Value : Type} {wanted : Report → Option Value} {good : Phase} {bound : Nat}
    {step : String} (script : Script) (access : Access) (world : World (List Contact))
    (tabled : Tabled wanted good bound step (script world.transport.length) world.tracker) :
    closed step [good, .fail] (called script.transport access world) =
      behind script access
        (outcome wanted bound step world.tracker.cancelled (script world.transport.length))
        world := by
  rw [called_script, closed, behind, left_reset, ← tabled.2]

/-- The wait of a write says what the table says. -/
theorem taken_tabled (bound : Nat) (step : String) (turn : Turn) (tracker : Tracker) :
    Tabled taken .sent bound step turn tracker :=
  tabled (fun report _ => by cases report <;> simp [taken, Report.phase]) (by decide)

/-- The wait of a read says what the table says. -/
theorem response_tabled (bound : Nat) (step : String) (turn : Turn) (tracker : Tracker) :
    Tabled Report.response .success bound step turn tracker :=
  tabled (fun report failed => by
    cases report <;> simp_all [Report.response, Report.phase, Report.error]) (by decide)

/-- A write whose call amounts to a turn gives what the table says. -/
theorem judge_taken (bound : Nat) (step : String) (turn : Turn) (tracker : Tracker) :
    judge bound step tracker.epoch [.sent, .fail] (left turn tracker) =
      outcome taken bound step tracker.cancelled turn := by
  rw [(taken_tabled bound step turn tracker).1]
  cases outcome taken bound step tracker.cancelled turn with
  | error failure => rfl
  | ok _ => rfl

/-- A write that follows a script ends as the table says. -/
theorem finish_scripted_write (script : Script) (world : World (List Contact)) (bound : Nat)
    (step : String) (characteristic : Characteristic) (value : Bytes) :
    (write bound step characteristic value).run.finish script.transport world =
      let ended :=
        outcome taken bound step world.tracker.cancelled (script world.transport.length)
      (ended, behind script (.write characteristic value) ended world) := by
  rw [finish_write, closed_called script _ world (taken_tabled bound step _ _), called_script]
  simp only [judge_taken]

/-- A read that succeeds has its bytes: they were reported, and nothing dropped them. -/
theorem left_response {bound : Nat} {step : String} {turn : Turn} {tracker : Tracker}
    {bytes : Bytes}
    (succeeded : outcome Report.response bound step tracker.cancelled turn = .ok bytes) :
    (left turn tracker).response = some bytes := by
  unfold outcome at succeeded
  split at succeeded
  · cases succeeded
  rename_i running
  split at succeeded
  · cases succeeded
  rename_i kept
  cases reported : turn.report with
  | none =>
    simp only [reported] at succeeded
    split at succeeded <;> cases succeeded
  | some report =>
    obtain ⟨-, -, response⟩ :=
      turn.apply_reported (issued tracker) (handed tracker) rfl rfl kept report reported
    have undropped : .cancel ∉ turn.after := fun dropped =>
      running (.inr (List.mem_append_right _ dropped))
    rw [response, if_neg undropped]
    simp only [reported] at succeeded
    cases report <;> simp_all [Report.error, Report.response]
    all_goals split at succeeded <;> cases succeeded

/-- A read whose call amounts to a turn gives what the table says, with the bytes that were
reported. -/
theorem brought_response (bound : Nat) (step : String) (turn : Turn) (tracker : Tracker) :
    brought step (judge bound step tracker.epoch [.success, .fail] (left turn tracker))
        (left turn tracker).response =
      outcome Report.response bound step tracker.cancelled turn := by
  rw [(response_tabled bound step turn tracker).1]
  cases ended : outcome Report.response bound step tracker.cancelled turn with
  | error failure => rfl
  | ok bytes => simp [Except.map, brought, left_response ended]

/-- A read that follows a script ends as the table says, with the bytes that were reported. -/
theorem finish_scripted_read (script : Script) (world : World (List Contact)) (bound : Nat)
    (step : String) (characteristic : Characteristic) :
    (read bound step characteristic).run.finish script.transport world =
      let ended :=
        outcome Report.response bound step world.tracker.cancelled (script world.transport.length)
      (ended, behind script (.read characteristic) ended world) := by
  rw [finish_read, closed_called script _ world (response_tabled bound step _ _), called_script]
  simp only [brought_response]

end Step

end MeshLight.Session
