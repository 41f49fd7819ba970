import MeshLight.Proofs.Link.Script

/-!
# Stray reports

A transport may keep a completion and report something through it long after its call. Here a script
says, besides the disturbances, which kept completions are used when, and the transport writes down
every answer. A completion whose cycle is over is retired: the tracker refuses every report through
it, so a script does to the tracker what is left of it without its stray reports.
-/

namespace MeshLight.Link

/-- Something that another party does: it disturbs the tracker, or reports something through the
completion of the contact with a number, which it kept. -/
inductive Incident where
  | disturbance (content : Disturbance)
  | stray (number : Nat) (report : Report)
  deriving Repr, DecidableEq

/-- What a transport wrote down: the contacts and the answers to stray reports, oldest first. -/
structure Ledger where
  contacts : List Contact := []
  answers : List Bool := []
  deriving Repr, DecidableEq

namespace Incident

/-- The disturbance, if it is one. -/
def disturbance? : Incident → Option Disturbance
  | .disturbance content => some content
  | .stray .. => none

/-- What an incident does. A contact that handed out no completion, or that has not been made yet,
gives nothing to report through. -/
def befall : Incident → Ledger × Tracker → Ledger × Tracker
  | .disturbance content, (ledger, tracker) => (ledger, content.apply tracker)
  | .stray number report, (ledger, tracker) =>
    match ledger.contacts[number]?.bind Contact.completion? with
    | none => (ledger, tracker)
    | some completion =>
      let (answer, changed) := tracker.complete completion report
      ({ ledger with answers := ledger.answers ++ [answer] }, changed)

/-- What incidents do, first one first. -/
def befallAll (incidents : List Incident) (state : Ledger × Tracker) : Ledger × Tracker :=
  incidents.foldl (fun current incident => incident.befall current) state

end Incident

/-- What happens during one call of the transport: incidents, a report through the completion of the
call unless it is never completed, and incidents after it. -/
structure StrayTurn where
  before : List Incident := []
  report : Option Report := none
  after : List Incident := []
  deriving Repr, DecidableEq

/-- What happens during each call, by the number of calls before it. -/
abbrev StrayScript := Nat → StrayTurn

namespace StrayTurn

/-- The turn without its stray reports. -/
def quiet (turn : StrayTurn) : Turn :=
  { before := turn.before.filterMap Incident.disturbance?
    report := turn.report
    after := turn.after.filterMap Incident.disturbance? }

/-- What happens during a call that hands out a completion. -/
def apply (completion : Completion) (turn : StrayTurn) (state : Ledger × Tracker) :
    Ledger × Tracker :=
  let (ledger, reached) := Incident.befallAll turn.before state
  let completed :=
    match turn.report with
    | none => reached
    | some report => (reached.complete completion report).2
  Incident.befallAll turn.after (ledger, completed)

end StrayTurn

namespace Ledger

/-- Writes a contact down. -/
def record (contact : Contact) (ledger : Ledger) : Ledger :=
  { ledger with contacts := ledger.contacts ++ [contact] }

end Ledger

namespace StrayScript

/-- The script without its stray reports. -/
def quiet (script : StrayScript) : Script := fun number => (script number).quiet

/-- Makes contact: the turn takes place and the contact is written down. -/
def meet (script : StrayScript) (access : Access) (completion : Completion) :
    Ledger × Tracker → Ledger × Tracker
  | (ledger, tracker) =>
    let (left, after) := (script ledger.contacts.length).apply completion (ledger, tracker)
    (left.record (.access access completion tracker), after)

/-- The transport that follows a script with stray reports. -/
def transport (script : StrayScript) : Transport Ledger where
  write characteristic value := script.meet (.write characteristic value)
  read characteristic := script.meet (.read characteristic)
  disconnect := fun (ledger, tracker) =>
    let turn := script ledger.contacts.length
    let (left, after) := Incident.befallAll (turn.before ++ turn.after) (ledger, tracker)
    (left.record (.disconnect tracker), after)

/-- Such a script meets every call alike. -/
@[simp] theorem take_transport (script : StrayScript) (access : Access) :
    script.transport.take access = script.meet access := by
  cases access <;> rfl

end StrayScript

/-! ## Retired completions -/

/-- Every completion handed out in these contacts belongs to a cycle that is over. -/
def Retired (contacts : List Contact) (tracker : Tracker) : Prop :=
  ∀ contact ∈ contacts, ∀ completion, contact.completion? = some completion →
    completion.cycle < tracker.cycle

/-- No stray report was taken. -/
def Ledger.Refusing (ledger : Ledger) : Prop :=
  ∀ answer ∈ ledger.answers, answer = false

/-- The tracker refuses every report through a completion whose cycle is over, and does not
change. -/
theorem Tracker.complete_retired {tracker : Tracker} {completion : Completion}
    (ended : completion.cycle < tracker.cycle) (report : Report) :
    tracker.complete completion report = (false, tracker) := by
  have different : tracker.cycle ≠ completion.cycle := by omega
  simp [Tracker.complete, different]

namespace Retired

variable {contacts : List Contact} {ledger : Ledger} {tracker later : Tracker}

/-- Completions stay retired as cycles go by. -/
theorem mono (retired : Retired contacts tracker) (further : tracker.cycle ≤ later.cycle) :
    Retired contacts later := fun contact among completion handed =>
  Nat.lt_of_lt_of_le (retired contact among completion handed) further

/-- A completion is retired once a later cycle has begun. -/
theorem record (retired : Retired contacts tracker) (asked : Access) (completion : Completion)
    (found : Tracker) (ended : completion.cycle < tracker.cycle) :
    Retired (contacts ++ [.access asked completion found]) tracker := by
  intro contact among handedOut handed
  rcases List.mem_append.mp among with before | last
  · exact retired contact before handedOut handed
  · rw [List.mem_singleton.mp last] at handed
    cases handed
    exact ended

/-- The request to drop the link hands nothing out. -/
theorem record_disconnect (retired : Retired contacts tracker) (found : Tracker) :
    Retired (contacts ++ [.disconnect found]) tracker := by
  intro contact among completion handed
  rcases List.mem_append.mp among with before | last
  · exact retired contact before completion handed
  · rw [List.mem_singleton.mp last] at handed
    cases handed

/-- While all completions are retired, an incident does no more than its disturbance. -/
theorem befall (retired : Retired ledger.contacts tracker) (incident : Incident) :
    ∃ left, incident.befall (ledger, tracker) =
        (left, tracker.disturb incident.disturbance?.toList) ∧
      left.contacts = ledger.contacts ∧ (ledger.Refusing → left.Refusing) := by
  cases incident with
  | disturbance content => exact ⟨ledger, rfl, rfl, id⟩
  | stray number report =>
    cases found : ledger.contacts[number]?.bind Contact.completion? with
    | none => exact ⟨ledger, by simp [Incident.befall, found, Incident.disturbance?], rfl, id⟩
    | some completion =>
      obtain ⟨contact, among, handed⟩ := Option.bind_eq_some_iff.mp found
      have ended := retired contact (List.mem_of_getElem? among) completion handed
      refine ⟨{ ledger with answers := ledger.answers ++ [false] }, ?_, rfl, ?_⟩
      · simp [Incident.befall, found, Tracker.complete_retired ended, Incident.disturbance?]
      · intro refusing answer given
        rcases List.mem_append.mp given with before | last
        · exact refusing answer before
        · exact List.mem_singleton.mp last

/-- While all completions are retired, incidents do no more than their disturbances. -/
theorem befallAll (retired : Retired ledger.contacts tracker) (incidents : List Incident) :
    ∃ left, Incident.befallAll incidents (ledger, tracker) =
        (left, tracker.disturb (incidents.filterMap Incident.disturbance?)) ∧
      left.contacts = ledger.contacts ∧ (ledger.Refusing → left.Refusing) := by
  induction incidents generalizing ledger tracker with
  | nil => exact ⟨ledger, rfl, rfl, id⟩
  | cons incident incidents inductionHypothesis =>
    obtain ⟨middle, befallen, kept, refusing⟩ := retired.befall incident
    have still : Retired middle.contacts (tracker.disturb incident.disturbance?.toList) :=
      kept ▸ retired.mono (Nat.le_of_eq (Tracker.disturb_cycle _ _).symm)
    obtain ⟨left, befallenAll, keptAll, refusingAll⟩ := inductionHypothesis still
    refine ⟨left, ?_, keptAll.trans kept, fun before => refusingAll (refusing before)⟩
    have opened : Incident.befallAll (incident :: incidents) (ledger, tracker) =
        Incident.befallAll incidents (incident.befall (ledger, tracker)) := rfl
    rw [opened, befallen, befallenAll, ← Tracker.disturb_append]
    cases incident <;> rfl

/-- While all earlier completions are retired, a turn does to the tracker what it does without its
stray reports, and every stray report is refused. -/
theorem apply (retired : Retired ledger.contacts tracker) (completion : Completion)
    (turn : StrayTurn) :
    ∃ left, turn.apply completion (ledger, tracker) =
        (left, turn.quiet.apply completion tracker) ∧
      left.contacts = ledger.contacts ∧ (ledger.Refusing → left.Refusing) := by
  obtain ⟨middle, befallen, kept, refusing⟩ := retired.befallAll turn.before
  have closing (completed : Tracker) (same : completed.cycle = tracker.cycle) :
      ∃ left, Incident.befallAll turn.after (middle, completed) =
          (left, completed.disturb turn.quiet.after) ∧
        left.contacts = ledger.contacts ∧ (ledger.Refusing → left.Refusing) := by
    have still : Retired middle.contacts completed :=
      kept ▸ retired.mono (Nat.le_of_eq same.symm)
    obtain ⟨left, later, keptToo, refusingToo⟩ := still.befallAll turn.after
    exact ⟨left, later, keptToo.trans kept, fun before => refusingToo (refusing before)⟩
  have cycle : (tracker.disturb turn.quiet.before).cycle = tracker.cycle :=
    Tracker.disturb_cycle _ tracker
  have opened : turn.apply completion (ledger, tracker) =
      Incident.befallAll turn.after (middle,
        match turn.report with
        | none => tracker.disturb turn.quiet.before
        | some report => ((tracker.disturb turn.quiet.before).complete completion report).2) := by
    simp only [StrayTurn.apply, befallen]
    rfl
  rw [opened]
  refine closing _ ?_
  cases turn.report with
  | none => exact cycle
  | some report => exact (Tracker.complete_frame _ completion report).2.1.trans cycle

end Retired

end MeshLight.Link
