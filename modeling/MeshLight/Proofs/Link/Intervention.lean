import MeshLight.Proofs.Link.Script

/-!
# Interventions

Whoever shares a tracker with the side that waits may report through a completion of any cycle, lose
the link, or tear the tracker down. Nobody else stores a phase, begins a cycle or takes anything out
of the tracker.

Of the reports in a list of interventions only those through one completion count, and if there is
at most one of them, the list amounts to a turn. What interventions leave behind in the middle of a
cycle is told apart by the phase: a success has its bytes unless the tracker was torn down, and a
failure has the error that a report brought unless the link was lost.
-/

namespace MeshLight.Link

/-- What another party does to a tracker that it shares: it reports something through a completion,
of whatever cycle, or disturbs the tracker. -/
inductive Intervention where
  | report (completion : Completion) (content : Report)
  | disturbance (content : Disturbance)
  deriving Repr, DecidableEq

namespace Intervention

/-- The tracker after an intervention. -/
def apply : Intervention → Tracker → Tracker
  | .report completion content, tracker => (tracker.complete completion content).2
  | .disturbance content, tracker => content.apply tracker

/-- What is reported through a completion, if it is used. -/
def through? (completion : Completion) : Intervention → Option Report
  | .report used content => if used = completion then some content else none
  | .disturbance _ => none

/-- The disturbance, if it is one. -/
def disturbance? : Intervention → Option Disturbance
  | .report .. => none
  | .disturbance content => some content

@[simp] theorem through?_self (completion : Completion) (content : Report) :
    (Intervention.report completion content).through? completion = some content := by
  simp [through?]

@[simp] theorem through?_disturbance (completion : Completion) (content : Disturbance) :
    (Intervention.disturbance content).through? completion = none := rfl

/-- Only a report through a completion is one. -/
theorem eq_report {completion : Completion} {content : Report} {intervention : Intervention}
    (reported : intervention.through? completion = some content) :
    intervention = .report completion content := by
  cases intervention with
  | disturbance content => cases reported
  | report used other =>
    by_cases same : used = completion
    · simp only [through?, same, if_true, Option.some.injEq] at reported
      rw [same, reported]
    · simp [through?, same] at reported

end Intervention

/-- The disturbances among interventions, first one first. -/
def disturbancesAmong (interventions : List Intervention) : List Disturbance :=
  interventions.filterMap Intervention.disturbance?

@[simp] theorem disturbancesAmong_nil : disturbancesAmong [] = [] := rfl

@[simp] theorem disturbancesAmong_append (interventions later : List Intervention) :
    disturbancesAmong (interventions ++ later) =
      disturbancesAmong interventions ++ disturbancesAmong later :=
  List.filterMap_append

@[simp] theorem disturbancesAmong_report (completion : Completion) (content : Report)
    (later : List Intervention) :
    disturbancesAmong (.report completion content :: later) = disturbancesAmong later := rfl

/-- A disturbance is among the interventions if it is one of them. -/
@[simp] theorem mem_disturbancesAmong {content : Disturbance} {interventions : List Intervention} :
    content ∈ disturbancesAmong interventions ↔ .disturbance content ∈ interventions := by
  rw [disturbancesAmong, List.mem_filterMap]
  constructor
  · rintro ⟨intervention, among, found⟩
    cases intervention with
    | report completion content => cases found
    | disturbance content =>
      cases found
      exact among
  · exact fun among => ⟨_, among, rfl⟩

/-- The tracker after interventions, first one first. -/
def Tracker.intervene (interventions : List Intervention) (tracker : Tracker) : Tracker :=
  interventions.foldl (fun current intervention => intervention.apply current) tracker

namespace Tracker

variable (interventions : List Intervention) (tracker : Tracker)

@[simp] theorem intervene_nil : tracker.intervene [] = tracker := rfl

/-- An intervention and then the others. -/
@[simp] theorem intervene_cons (intervention : Intervention) :
    tracker.intervene (intervention :: interventions) =
      (intervention.apply tracker).intervene interventions := rfl

/-- Interventions in two groups. -/
theorem intervene_append (later : List Intervention) :
    tracker.intervene (interventions ++ later) =
      (tracker.intervene interventions).intervene later :=
  List.foldl_append

/-- Only a teardown sets the mark of one. -/
theorem intervene_cancelled : (tracker.intervene interventions).cancelled =
    (tracker.cancelled || decide (.disturbance .cancel ∈ interventions)) := by
  induction interventions generalizing tracker with
  | nil => simp
  | cons intervention later inductionHypothesis =>
    rw [intervene_cons, inductionHypothesis]
    cases intervention with
    | report completion content =>
      simp [Intervention.apply, (tracker.complete_frame completion content).2.2.2]
    | disturbance content =>
      have marked : (content.apply tracker).cancelled =
          (tracker.cancelled || decide (.cancel ∈ [content])) := tracker.disturb_cancelled [content]
      simp [Intervention.apply, marked, Bool.or_assoc, Bool.decide_or]

/-- No intervention brings a key. -/
theorem intervene_keyless {tracker : Tracker} (absent : tracker.key = none)
    (interventions : List Intervention) : (tracker.intervene interventions).key = none := by
  induction interventions generalizing tracker with
  | nil => exact absent
  | cons intervention later inductionHypothesis =>
    refine inductionHypothesis ?_
    cases intervention with
    | report completion content => exact (tracker.complete_frame completion content).1.trans absent
    | disturbance content => exact (tracker.disturb_key [content]).trans (by simp)

/-- No intervention ends a cycle. -/
@[simp] theorem intervene_cycle : (tracker.intervene interventions).cycle = tracker.cycle := by
  induction interventions generalizing tracker with
  | nil => rfl
  | cons intervention later inductionHypothesis =>
    rw [intervene_cons, inductionHypothesis]
    cases intervention with
    | report completion content => exact (tracker.complete_frame completion content).2.1
    | disturbance content => exact tracker.disturb_cycle [content]

end Tracker

/-! ## Interventions as a turn -/

/-- What is reported through a completion, first one first. -/
def answers (completion : Completion) (interventions : List Intervention) : List Report :=
  interventions.filterMap (Intervention.through? completion)

section Answers

variable {completion : Completion} {interventions : List Intervention}

@[simp] theorem answers_append (later : List Intervention) :
    answers completion (interventions ++ later) =
      answers completion interventions ++ answers completion later := by
  simp [answers]

@[simp] theorem answers_report (content : Report) (later : List Intervention) :
    answers completion (.report completion content :: later) =
      content :: answers completion later := by
  simp [answers]

/-- Nothing is reported through a completion if no intervention does so. -/
theorem answers_eq_nil : answers completion interventions = [] ↔
    ∀ intervention ∈ interventions, intervention.through? completion = none :=
  List.filterMap_eq_nil_iff

/-- Interventions with an answer, around the first one. -/
theorem exists_answer {content : Report} {rest : List Report}
    (answered : answers completion interventions = content :: rest) :
    ∃ before after, interventions = before ++ .report completion content :: after ∧
      answers completion before = [] ∧ answers completion after = rest := by
  obtain ⟨before, intervention, after, split, none, reported, others⟩ :=
    List.filterMap_eq_cons_iff.mp answered
  rw [Intervention.eq_report reported] at split
  exact ⟨before, after, split, answers_eq_nil.mpr none, others⟩

/-- While nothing is reported through the completion of the cycle, interventions do no more than
their disturbances. -/
theorem Tracker.intervene_unanswered {tracker : Tracker} (cycle : tracker.cycle = completion.cycle)
    (unanswered : answers completion interventions = []) :
    tracker.intervene interventions =
      tracker.disturb (disturbancesAmong interventions) := by
  induction interventions generalizing tracker with
  | nil => rfl
  | cons intervention later inductionHypothesis =>
    have first := answers_eq_nil.mp unanswered intervention List.mem_cons_self
    have others : answers completion later = [] :=
      answers_eq_nil.mpr fun other among =>
        answers_eq_nil.mp unanswered other (List.mem_cons_of_mem _ among)
    rw [intervene_cons]
    cases intervention with
    | report used content =>
      have foreign : tracker.cycle ≠ used.cycle := by
        intro same
        have used : used = completion := by
          cases used
          cases completion
          simp_all
        simp [used] at first
      have refused : (Intervention.report used content).apply tracker = tracker := by
        simp [Intervention.apply, Tracker.complete, foreign]
      rw [refused]
      exact inductionHypothesis cycle others
    | disturbance content =>
      have still : (content.apply tracker).cycle = completion.cycle :=
        (tracker.disturb_cycle [content]).trans cycle
      exact inductionHypothesis still others

/-- The interventions of a call as a turn, by what they report through its completion. -/
def turnAround (before : List Intervention) (report : Option Report) (after : List Intervention) :
    Turn :=
  { before := disturbancesAmong before
    report
    after := disturbancesAmong after }

/-- Interventions that report nothing through the completion of the cycle. -/
theorem Tracker.intervene_silent {tracker : Tracker} (cycle : tracker.cycle = completion.cycle)
    (unanswered : answers completion interventions = []) :
    tracker.intervene interventions =
      (turnAround interventions none []).apply completion tracker :=
  intervene_unanswered cycle unanswered

/-- Interventions that report once through the completion of the cycle. -/
theorem Tracker.intervene_answered {tracker : Tracker} {before after : List Intervention}
    {content : Report} (cycle : tracker.cycle = completion.cycle)
    (none : answers completion before = []) (others : answers completion after = []) :
    tracker.intervene (before ++ .report completion content :: after) =
      (turnAround before (some content) after).apply completion tracker := by
  have same : (tracker.disturb (disturbancesAmong before)).cycle =
      completion.cycle := by
    rw [disturb_cycle, cycle]
  have still : ((tracker.disturb (disturbancesAmong before)).complete completion
      content).2.cycle = completion.cycle := (complete_frame _ completion content).2.1.trans same
  rw [intervene_append, intervene_unanswered cycle none, intervene_cons]
  exact intervene_unanswered still others

end Answers

/-! ## The middle of a cycle -/

/-- What the phase of a tracker says about the interventions of its cycle so far: a success has its
bytes unless the tracker was torn down, and a failure without a loss of the link has the error of a
report. Losses are only added. -/
structure Explained (epoch : Nat) (interventions : List Intervention) (tracker : Tracker) :
    Prop where
  losses : epoch ≤ tracker.epoch
  success : tracker.phase = .success → tracker.cancelled = false → tracker.response.isSome = true
  failure : tracker.phase = .fail → tracker.epoch = epoch →
    ∃ content reason, .report ⟨tracker.cycle⟩ content ∈ interventions ∧
      content.error = some reason ∧ tracker.error = some reason

namespace Explained

variable {epoch : Nat} {interventions : List Intervention} {tracker : Tracker}

/-- An operation that was just handed over has neither succeeded nor failed. -/
theorem handed (queued : tracker.phase = .queued) (losses : epoch ≤ tracker.epoch) :
    Explained epoch [] tracker :=
  ⟨losses, fun success => by simp [queued] at success, fun failed => by simp [queued] at failed⟩

/-- One more intervention. -/
theorem apply (explained : Explained epoch interventions tracker) (intervention : Intervention) :
    Explained epoch (interventions ++ [intervention]) (intervention.apply tracker) := by
  obtain ⟨losses, success, failure⟩ := explained
  have failedBefore (failed : tracker.phase = .fail) (kept : tracker.epoch = epoch) :
      ∃ content reason, .report ⟨tracker.cycle⟩ content ∈ interventions ++ [intervention] ∧
        content.error = some reason ∧ tracker.error = some reason := by
    obtain ⟨content, reason, among, brought⟩ := failure failed kept
    exact ⟨content, reason, List.mem_append_left _ among, brought⟩
  cases intervention with
  | report completion content =>
    simp only [Intervention.apply, Tracker.complete]
    split
    · rename_i accepted
      refine ⟨losses, fun success _ => ?_, fun failed _ => ?_⟩
      · cases content <;> simp_all [Report.phase, Report.response]
      · have own : completion = ⟨tracker.cycle⟩ := by
          cases completion
          exact congrArg Completion.mk accepted.1.symm
        have among : .report ⟨tracker.cycle⟩ content ∈
            interventions ++ [.report completion content] := by simp [own]
        cases content with
        | writeFailed reason => exact ⟨_, reason, among, rfl, rfl⟩
        | readFailed reason => exact ⟨_, reason, among, rfl, rfl⟩
        | written => cases failed
        | delivered bytes => cases failed
    · exact ⟨losses, success, failedBefore⟩
  | disturbance content =>
    cases content with
    | cancel => exact ⟨losses, fun _ running => (by cases running), failedBefore⟩
    | linkLost =>
      have further : epoch ≤ tracker.epoch + 1 := Nat.le_succ_of_le losses
      simp only [Intervention.apply, Disturbance.apply, Tracker.linkLost]
      split
      · exact ⟨further, fun success => (by cases success),
          fun _ same => absurd same (Nat.ne_of_gt (Nat.lt_succ_of_le losses))⟩
      · exact ⟨further, success, fun _ same =>
          absurd same (Nat.ne_of_gt (Nat.lt_succ_of_le losses))⟩

/-- Any number of further interventions. -/
theorem intervene (explained : Explained epoch interventions tracker)
    (later : List Intervention) :
    Explained epoch (interventions ++ later) (tracker.intervene later) := by
  induction later generalizing interventions tracker with
  | nil => exact (List.append_nil interventions).symm ▸ explained
  | cons intervention later inductionHypothesis =>
    have next := inductionHypothesis (explained.apply intervention)
    rwa [List.append_assoc] at next

end Explained

namespace Tracker

variable {tracker : Tracker}

/-- Losses are only added. -/
theorem epoch_le_intervene (tracker : Tracker) (interventions : List Intervention) :
    tracker.epoch ≤ (tracker.intervene interventions).epoch := by
  induction interventions generalizing tracker with
  | nil => exact Nat.le_refl _
  | cons intervention later inductionHypothesis =>
    refine Nat.le_trans ?_ (inductionHypothesis (intervention.apply tracker))
    cases intervention with
    | report completion content =>
      exact Nat.le_of_eq (tracker.complete_frame completion content).2.2.1.symm
    | disturbance content =>
      have counted := tracker.disturb_epoch [content]
      exact counted ▸ Nat.le_add_right _ _

/-- Once an operation has succeeded or failed, an intervention changes neither that nor the error;
only a teardown drops the bytes. -/
theorem intervene_decided (decided : tracker.phase = .success ∨ tracker.phase = .fail)
    (interventions : List Intervention) :
    (tracker.intervene interventions).phase = tracker.phase ∧
      (tracker.intervene interventions).error = tracker.error ∧
      (tracker.intervene interventions).response =
        if .disturbance .cancel ∈ interventions then none else tracker.response := by
  induction interventions generalizing tracker with
  | nil => simp
  | cons intervention later inductionHypothesis =>
    have waiting : tracker.phase ≠ .queued := by rcases decided with phase | phase <;> simp [phase]
    have kept : (intervention.apply tracker).phase = tracker.phase ∧
        (intervention.apply tracker).error = tracker.error ∧
        (intervention.apply tracker).response =
          if intervention = .disturbance .cancel then none else tracker.response := by
      cases intervention with
      | report completion content =>
        have refused : tracker.complete completion content = (false, tracker) := by
          rcases decided with phase | phase <;>
            cases content <;> simp [Tracker.complete, Report.admitted, phase]
        simp [Intervention.apply, refused]
      | disturbance content =>
        cases content with
        | linkLost => simp [Intervention.apply, Disturbance.apply, linkLost, waiting]
        | cancel => simp [Intervention.apply, Disturbance.apply, cancel]
    obtain ⟨phase, error, response⟩ := kept
    obtain ⟨phaseLater, errorLater, responseLater⟩ :=
      @inductionHypothesis (intervention.apply tracker) (phase ▸ decided)
    rw [intervene_cons]
    refine ⟨phaseLater.trans phase, errorLater.trans error, ?_⟩
    rw [responseLater, response]
    by_cases now : intervention = .disturbance .cancel
    · simp [now]
    · simp [now, Ne.symm now]

end Tracker

/-! ## Transports -/

/-- A transport whose calls are interventions and nothing else: some of them when a call is taken,
the others when it returns. -/
def Transport.eventful {State : Type} (taken returned : List Intervention) : Transport State where
  write _ _ _ := fun (state, tracker) => (state, tracker.intervene taken)
  read _ _ := fun (state, tracker) => (state, tracker.intervene taken)
  disconnect := id
  callReturn := fun (state, tracker) => (state, tracker.intervene returned)

/-- What a transport may make of a tracker: it reports through completions and loses the link, but
it does not tear the tracker down. -/
def Tracker.MayBecome (tracker later : Tracker) : Prop :=
  ∃ interventions, .disturbance .cancel ∉ interventions ∧ later = tracker.intervene interventions

namespace Tracker.MayBecome

variable {tracker later : Tracker}

/-- Nothing at all is allowed. -/
theorem refl (tracker : Tracker) : tracker.MayBecome tracker :=
  ⟨[], List.not_mem_nil, rfl⟩

/-- So is a report. -/
theorem report (tracker : Tracker) (completion : Completion) (content : Report) :
    tracker.MayBecome (tracker.complete completion content).2 :=
  ⟨[.report completion content], by simp, rfl⟩

/-- The mark of a teardown stays as it is. -/
theorem cancelled (may : tracker.MayBecome later) : later.cancelled = tracker.cancelled := by
  obtain ⟨interventions, kept, rfl⟩ := may
  simp [intervene_cancelled, kept]

/-- No key appears. -/
theorem keyless (may : tracker.MayBecome later) (absent : tracker.key = none) :
    later.key = none := by
  obtain ⟨interventions, -, rfl⟩ := may
  exact intervene_keyless absent interventions

end Tracker.MayBecome

/-- A transport that does nothing else to a tracker. -/
structure Transport.Lawful {State : Type} (transport : Transport State) : Prop where
  write (characteristic : Characteristic) (value : Bytes) (completion : Completion) (state : State)
    (tracker : Tracker) :
    tracker.MayBecome (transport.write characteristic value completion (state, tracker)).2
  read (characteristic : Characteristic) (completion : Completion) (state : State)
    (tracker : Tracker) :
    tracker.MayBecome (transport.read characteristic completion (state, tracker)).2
  disconnect (state : State) (tracker : Tracker) :
    tracker.MayBecome (transport.disconnect (state, tracker)).2
  callReturn (state : State) (tracker : Tracker) :
    tracker.MayBecome (transport.callReturn (state, tracker)).2

end MeshLight.Link
