import Mathlib.Data.List.TakeWhile
import MeshLight.Proofs.Link.Intervention
import MeshLight.Proofs.Session.Steps
import MeshLight.Session.Settings

/-!
# What a step makes of its call

While a call is under way, others may do anything to the tracker that they may do at all: report
through the completion of the call, well or badly and in the right way or the wrong one, report
through completions of cycles long over, lose the link and tear the tracker down, any number of
times and in any order. A completion is used up by its first report.

The ruling of a step says by the list of these interventions alone how the step ends. The list
amounts to a turn, because only the report through the completion of the call counts, and for turns
the table of outcomes is known; what remains is to read the table off the list.
-/

namespace MeshLight.Session

open Link (Access Characteristic Completion Intervention Report Tracker Transport Turn answers
  disturbancesAmong turnAround)

/-- The interventions before the link is lost for the first time. -/
def whileLinked (interventions : List Intervention) : List Intervention :=
  interventions.takeWhile (· ≠ .disturbance .linkLost)

/-- The interventions before anything is reported through a completion. -/
def whileOpen (completion : Completion) (interventions : List Intervention) : List Intervention :=
  interventions.takeWhile fun intervention => (intervention.through? completion).isNone

namespace Step

/-- How a step ends by what others did during its call. A cancellation wins over everything. A
report that is wanted counts if it came before any loss of the link. A loss decides a step that
nothing was reported to, and makes a failure of the transport its own; otherwise the failure is the
transport's. A step that is left with nothing runs into its bound. -/
def ruling {Value : Type} (wanted : Report → Option Value) (bound : Nat) (step : String)
    (cancelled : Bool) (completion : Completion) (interventions : List Intervention) :
    Except Failure Value :=
  let failure := (answers completion interventions).findSome? Report.error
  if cancelled = true ∨ .disturbance .cancel ∈ interventions then .error .cancelled
  else
    match (answers completion (whileLinked interventions)).findSome? wanted with
    | some value => .ok value
    | none =>
      if .disturbance .linkLost ∈ whileOpen completion interventions ∨
          failure.isSome = true ∧ .disturbance .linkLost ∈ interventions then
        .error (.linkLost step)
      else
        match failure with
        | some reason => .error (.transport step reason)
        | none => .error (.timeout step bound)

section Lists

variable {completion : Completion} {before after : List Intervention} {content : Report}

/-- Without a report the call stays open. -/
theorem whileOpen_unanswered (silent : answers completion before = []) :
    whileOpen completion before = before :=
  List.takeWhile_eq_self_iff.mpr fun intervention among => by
    simp [Link.answers_eq_nil.mp silent intervention among]

/-- The first report closes the call. -/
theorem whileOpen_answered (silent : answers completion before = []) :
    whileOpen completion (before ++ .report completion content :: after) = before := by
  have opened : ∀ intervention ∈ before, (intervention.through? completion).isNone = true :=
    fun intervention among => by simp [Link.answers_eq_nil.mp silent intervention among]
  rw [whileOpen, List.takeWhile_append_of_pos opened, List.takeWhile_cons_of_neg (by simp),
    List.append_nil]

/-- What was not reported was not reported while the link was up. -/
theorem whileLinked_unanswered (silent : answers completion before = []) :
    answers completion (whileLinked before) = [] :=
  Link.answers_eq_nil.mpr fun intervention among =>
    Link.answers_eq_nil.mp silent intervention (List.takeWhile_subset _ among)

/-- A report behind a loss of the link does not count. -/
theorem whileLinked_lost (silent : answers completion before = [])
    (lost : .disturbance .linkLost ∈ before) :
    answers completion (whileLinked (before ++ after)) = [] := by
  have cut : whileLinked (before ++ after) = whileLinked before := by
    rw [whileLinked, List.takeWhile_append, if_neg]
    · rfl
    · intro whole
      have all := List.takeWhile_eq_self_iff.mp
        ((List.takeWhile_prefix _).eq_of_length whole) _ lost
      simp at all
  rw [cut]
  exact whileLinked_unanswered silent

/-- The report counts if the link was not lost before it. -/
theorem whileLinked_answered (silent : answers completion before = [])
    (others : answers completion after = []) (kept : .disturbance .linkLost ∉ before) :
    answers completion (whileLinked (before ++ .report completion content :: after)) =
      [content] := by
  have linked : ∀ intervention ∈ before, intervention ≠ .disturbance .linkLost := by
    rintro intervention among rfl
    exact kept among
  have split : whileLinked (before ++ .report completion content :: after) =
      before ++ .report completion content :: whileLinked after := by
    rw [whileLinked, List.takeWhile_append_of_pos (by simpa using linked),
      List.takeWhile_cons_of_pos (by simp)]
    rfl
  rw [split, Link.answers_append, Link.answers_report, silent, whileLinked_unanswered others]
  rfl

end Lists

section Ruled

variable {Value : Type} (wanted : Report → Option Value) (bound : Nat) (step : String)
  (cancelled : Bool) {completion : Completion} {before after : List Intervention}

/-- The table for interventions that report nothing. -/
theorem outcome_unanswered (silent : answers completion before = []) :
    outcome wanted bound step cancelled (turnAround before none []) =
      ruling wanted bound step cancelled completion before := by
  simp [outcome, ruling, turnAround, Turn.disturbances, silent, whileOpen_unanswered silent,
    whileLinked_unanswered silent]

/-- The table for interventions that report once. What is wanted is no failure. -/
theorem outcome_answered (silent : answers completion before = [])
    (others : answers completion after = []) (content : Report)
    (sound : ∀ value, wanted content = some value → content.error = none) :
    outcome wanted bound step cancelled (turnAround before (some content) after) =
      ruling wanted bound step cancelled completion
        (before ++ .report completion content :: after) := by
  by_cases torn : cancelled = true ∨ .disturbance .cancel ∈ before ∨ .disturbance .cancel ∈ after
  · simp [outcome, ruling, turnAround, Turn.disturbances, torn]
  by_cases lost : .disturbance .linkLost ∈ before
  · simp [outcome, ruling, turnAround, Turn.disturbances, torn, lost, silent, others,
      whileOpen_answered silent, whileLinked_lost silent lost]
  have linked : answers completion
      (whileLinked (before ++ .report completion content :: after)) = [content] :=
    whileLinked_answered silent others lost
  cases failure : content.error with
  | some reason =>
    have unwanted : wanted content = none :=
      Option.eq_none_iff_forall_ne_some.mpr fun value given => by
        simpa [failure] using sound value given
    simp [outcome, ruling, turnAround, Turn.disturbances, torn, lost, silent, others,
      whileOpen_answered silent, linked, failure, unwanted]
  | none =>
    cases given : wanted content <;>
      simp [outcome, ruling, turnAround, Turn.disturbances, torn, lost, silent, others,
        whileOpen_answered silent, linked, failure, given]

end Ruled

/-- The interventions of a call amount to a turn, which has the same disturbances and whose table is
the ruling. -/
theorem exists_turn (tracker : Tracker) (interventions : List Intervention)
    (once : (answers (issued tracker) interventions).length ≤ 1) :
    ∃ turn : Turn, (handed tracker).intervene interventions = left turn tracker ∧
      turn.disturbances = disturbancesAmong interventions ∧
      ∀ {Value : Type} (wanted : Report → Option Value) (bound : Nat) (step : String)
        (cancelled : Bool),
        (∀ content value, wanted content = some value → content.error = none) →
          outcome wanted bound step cancelled turn =
            ruling wanted bound step cancelled (issued tracker) interventions := by
  have cycle : (handed tracker).cycle = (issued tracker).cycle := rfl
  cases reported : answers (issued tracker) interventions with
  | nil =>
    exact ⟨_, Tracker.intervene_silent cycle reported, List.append_nil _,
      fun wanted bound step cancelled _ => outcome_unanswered wanted bound step cancelled reported⟩
  | cons content rest =>
    have only : rest = [] := by
      rw [reported, List.length_cons] at once
      exact List.eq_nil_of_length_eq_zero (by omega)
    obtain ⟨before, after, rfl, silent, others⟩ := Link.exists_answer reported
    rw [only] at others
    refine ⟨_, Tracker.intervene_answered cycle silent others, ?_,
      fun wanted bound step cancelled sound =>
        outcome_answered wanted bound step cancelled silent others content (sound content)⟩
    simp [turnAround, Turn.disturbances]

/-- The call of a step does to its tracker what its interventions do. -/
theorem called_eventful {State : Type} (beginning ending : List Intervention) (access : Access)
    (world : World State) :
    (called (Transport.eventful beginning ending) access world).tracker =
      (handed world.tracker).intervene (beginning ++ ending) := by
  rw [Tracker.intervene_append]
  cases access <;> rfl

/-- What a step leaves behind in the tracker, whatever was done during its call: nothing is under
way and nothing left over, later cycles have begun, losses and a teardown are remembered, and the
key is as it was unless a disturbance dropped it. -/
structure Leaves (tracker : Tracker) (interventions : List Intervention) (later : Tracker) :
    Prop where
  idle : Idle later
  cycle : tracker.cycle < later.cycle
  key : later.key = if disturbancesAmong interventions = [] then tracker.key else none
  losses : later.epoch = tracker.epoch + (disturbancesAmong interventions).count .linkLost
  mark : later.cancelled = (tracker.cancelled || decide (.disturbance .cancel ∈ interventions))

/-- A turn leaves behind what interventions with the same disturbances do. -/
theorem Leaves.behind {tracker : Tracker} {interventions : List Intervention} {turn : Turn}
    (same : turn.disturbances = disturbancesAmong interventions) :
    Leaves tracker interventions (settled turn tracker) where
  idle := ⟨rfl, rfl, rfl⟩
  cycle := Nat.lt_add_of_pos_right Nat.two_pos
  key := by rw [settled, same]
  losses := by rw [settled, same]
  mark := by simp [settled, same]

end Step

/-- A step ends exactly as its ruling says, from every state of the tracker and whatever is done
during its call, before anything is reported through its completion and after it. Afterwards the
tracker is idle in a later cycle, and its key is as it was unless the link was lost or the tracker
torn down. -/
theorem steps_ruled {State : Type} (beginning ending : List Intervention) (world : World State)
    (bound : Nat) (step : String) (characteristic : Characteristic) (value : Bytes)
    (once : (answers (Step.issued world.tracker) (beginning ++ ending)).length ≤ 1) :
    let interventions := beginning ++ ending
    let transport := Transport.eventful beginning ending
    let written := (Step.write bound step characteristic value).run.finish transport world
    let got := (Step.read bound step characteristic).run.finish transport world
    written.1 = Step.ruling Step.taken bound step world.tracker.cancelled
        (Step.issued world.tracker) interventions ∧
      got.1 = Step.ruling Report.response bound step world.tracker.cancelled
        (Step.issued world.tracker) interventions ∧
      Step.Leaves world.tracker interventions written.2.tracker ∧
      Step.Leaves world.tracker interventions got.2.tracker := by
  intro interventions transport written got
  obtain ⟨turn, amounts, same, table⟩ := Step.exists_turn world.tracker interventions once
  have called (access : Access) :
      (Step.called transport access world).tracker = Step.left turn world.tracker := by
    rw [Step.called_eventful, amounts]
  have behind (targets : List Link.Phase) (access : Access) :
      Step.Leaves world.tracker interventions
        (Step.closed step targets (Step.called transport access world)).tracker := by
    have left : (Step.closed step targets (Step.called transport access world)).tracker =
        Step.settled turn world.tracker := by
      rw [Step.closed, called, Step.left_reset]
    exact left ▸ .behind same
  have wrote : written = _ := Step.finish_write transport world bound step characteristic value
  have read : got = _ := Step.finish_read transport world bound step characteristic
  rw [wrote, read]
  refine ⟨?_, ?_, behind _ _, behind _ _⟩
  · rw [called, Step.judge_taken]
    exact table Step.taken _ _ _ fun content value wanted => by
      cases content <;> simp_all [Step.taken, Report.error]
  · rw [called, Step.brought_response]
    exact table Report.response _ _ _ fun content value wanted => by
      cases content <;> simp_all [Report.response, Report.error]

/-- A completion of the cycle before comes to nothing. The transport fails the write and the link is
lost after that, so the write says that the link was lost. -/
theorem steps_ruled_lateLoss :
    let interventions : List Intervention :=
      [.report ⟨0⟩ .written, .report ⟨1⟩ (.writeFailed "busy"), .disturbance .linkLost]
    let world : World Unit := { transport := () }
    (answers (Step.issued world.tracker) interventions).length ≤ 1 ∧
      ((Step.write defaultBound "status echo" .status [1]).run.finish
        (Transport.eventful [] interventions) world).1 = .error (.linkLost "status echo") := by
  intro interventions world
  have once : (answers (Step.issued world.tracker) interventions).length ≤ 1 := by decide
  have ruled := steps_ruled [] interventions world defaultBound "status echo" .status [1] once
  exact ⟨once, ruled.1.trans rfl⟩

end MeshLight.Session
