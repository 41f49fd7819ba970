import MeshLight.Proofs.Link.Intervention
import MeshLight.Proofs.Session.Step
import MeshLight.Session.Settings

/-!
# Gaps between actions

Each action on a tracker is indivisible, but between two of them others may intervene, also between
the end of a wait and the actions that look at what the wait ended with. A step has a fallback for
what it might not find there: a reason for a failure without an error, and a refusal of a read
without bytes.

The first is never used. A tracker in which an operation has failed keeps its error, and the error
came with a report unless the link was lost, which the step asks for before it asks for the error.
The second is used in one place only: a teardown drops the bytes of a read, so one that falls
between the end of the wait and the taking of the bytes makes the read say that there were none.
-/

namespace MeshLight.Session

open Link (Characteristic Completion Explained Intervention Phase Report Tracker Transport Verdict)

variable {State : Type}

/-- The interventions in each gap, by the number of actions and waits before it. -/
abbrev Gaps := Nat → List Intervention

/-- Runs a procedure to its end while others intervene: before each action, and in each wait before
it ends. A wait that nothing has decided by then runs into its bound. -/
def Procedure.finishAmid {Result : Type} (transport : Transport State) (gaps : Gaps) :
    Procedure Result → Nat → World State → Result × World State
  | .done result, _, world => (result, world)
  | .act action next, number, world =>
    let (reply, changed) :=
      action.perform transport (world.withTracker (world.tracker.intervene (gaps number)))
    (next reply).finishAmid transport gaps (number + 1) changed
  | .await _ targets next, number, world =>
    let met := world.tracker.intervene (gaps number)
    (next ((met.verdict? targets).getD .timedOut)).finishAmid transport gaps (number + 1)
      (world.withTracker met)

/-- Where nobody intervenes, a procedure runs as it does alone. -/
theorem Procedure.finishAmid_nobody {Result : Type} (transport : Transport State)
    (procedure : Procedure Result) (number : Nat) (world : World State) :
    procedure.finishAmid transport (fun _ => []) number world =
      procedure.finish transport world := by
  induction procedure generalizing number world with
  | done result => rfl
  | act action next inductionHypothesis => exact inductionHypothesis _ _ _
  | await bound targets next inductionHypothesis => exact inductionHypothesis _ _ _

/-- What stands behind a wait amid others goes on with the verdict that the wait ends with. -/
theorem Procedure.finishAmid_wait {First Second : Type} (transport : Transport State) (gaps : Gaps)
    (number : Nat) (world : World State) (bound : Nat) (targets : List Phase)
    (first : Verdict → Procedure First) (second : First → Procedure Second) :
    (wait bound targets >>= first >>= second).finishAmid transport gaps number world =
      (first (((world.tracker.intervene (gaps number)).verdict? targets).getD .timedOut) >>=
        second).finishAmid transport gaps (number + 1)
          (world.withTracker (world.tracker.intervene (gaps number))) := rfl

/-- What stands behind the two questions after a failure goes on with their answers. -/
theorem Procedure.finishAmid_failed {First Second : Type} (transport : Transport State)
    (gaps : Gaps) (number : Nat) (world : World State)
    (first : Nat → Option String → Procedure First) (second : First → Procedure Second) :
    ((do
      let current ← lossCount
      let error ← takeError
      first current error) >>= second).finishAmid transport gaps number world =
      let counted := world.tracker.intervene (gaps number)
      let failed := counted.intervene (gaps (number + 1))
      (first counted.epoch failed.error >>= second).finishAmid transport gaps (number + 2)
        (world.withTracker failed.takeError.2) := rfl

/-- A choice between two results. -/
theorem Procedure.finishAmid_ite {First Second : Type} (transport : Transport State)
    (gaps : Gaps) (number : Nat) (world : World State) (condition : Prop) [Decidable condition]
    (yes no : First) (next : First → Procedure Second) :
    ((if condition then pure yes else pure no) >>= next).finishAmid transport gaps number world =
      (next (if condition then yes else no)).finishAmid transport gaps number world := by
  split <;> rfl

namespace Step

/-- The tracker when a step asks how often the link was lost. -/
def opened (gaps : Gaps) (tracker : Tracker) : Tracker :=
  (tracker.intervene (gaps 0)).reset.intervene (gaps 1)

/-- The tracker when a step marks its operation as handed to the transport. -/
def entrusted (gaps : Gaps) (tracker : Tracker) : Tracker :=
  ((opened gaps tracker).intervene (gaps 2)).queue.2

/-- The tracker when the wait of a step ends. -/
def awaited (gaps : Gaps) (tracker : Tracker) : Tracker :=
  (((entrusted gaps tracker).intervene (gaps 3)).intervene (gaps 4)).intervene (gaps 5)

/-- What a wait says about the tracker that it ends with, if others intervene before the losses are
counted and before the error is taken. -/
def judgeAmid (gaps : Gaps) (bound : Nat) (step : String) (targets : List Phase)
    (tracker : Tracker) : Except Failure Unit :=
  let met := awaited gaps tracker
  match (met.verdict? targets).getD .timedOut with
  | .reached .fail =>
    let counted := met.intervene (gaps 6)
    if counted.epoch = (opened gaps tracker).epoch then
      .error (.transport step ((counted.intervene (gaps 7)).error.getD "operation failed"))
    else .error (.linkLost step)
  | .reached _ => .ok ()
  | .timedOut => .error (.timeout step bound)
  | .cancelled => .error .cancelled

/-- The world when the wait of a step begins. -/
def waiting (gaps : Gaps) (world : World State) : World State :=
  world.withTracker (((entrusted gaps world.tracker).intervene (gaps 3)).intervene (gaps 4))

section

variable (gaps : Gaps) (world : World State) (bound : Nat) (step : String)
  (characteristic : Characteristic)

/-- A wait amid others gives what it says. What stands behind a wait that succeeds goes on at
once. -/
theorem finishAmid_settle {Result : Type} (targets : List Phase)
    (next : Except Failure Unit → Procedure Result) :
    ∃ number later,
      (settle bound step (opened gaps world.tracker).epoch targets >>= next).finishAmid
          (Transport.eventful [] []) gaps 5 (waiting gaps world) =
        (next (judgeAmid gaps bound step targets world.tracker)).finishAmid
          (Transport.eventful [] []) gaps number later ∧
      (judgeAmid gaps bound step targets world.tracker = .ok () →
        number = 6 ∧ later.tracker = awaited gaps world.tracker) := by
  have met : (waiting gaps world).tracker.intervene (gaps 5) = awaited gaps world.tracker := rfl
  rw [settle, Procedure.finishAmid_wait, met, judgeAmid]
  cases decided : (awaited gaps world.tracker).verdict? targets with
  | none => exact ⟨_, _, rfl, fun succeeded => by cases succeeded⟩
  | some verdict =>
    cases verdict with
    | reached phase =>
      cases phase with
      | fail =>
        refine ⟨8, _, (Procedure.finishAmid_failed ..).trans (Procedure.finishAmid_ite ..), ?_⟩
        simp only [Option.getD_some]
        split <;> exact fun succeeded => by cases succeeded
      | _ => exact ⟨6, _, rfl, fun _ => ⟨rfl, rfl⟩⟩
    | timedOut => exact ⟨_, _, rfl, fun succeeded => by cases succeeded⟩
    | cancelled => exact ⟨_, _, rfl, fun succeeded => by cases succeeded⟩

/-- A write amid others gives what its wait says. -/
theorem finishAmid_write (value : Bytes) :
    ((write bound step characteristic value).run.finishAmid (Transport.eventful [] []) gaps 0
        world).1 = judgeAmid gaps bound step [.sent, .fail] world.tracker := by
  have opened : (write bound step characteristic value).run.finishAmid (Transport.eventful [] [])
      gaps 0 world =
    (settle bound step (opened gaps world.tracker).epoch [.sent, .fail] >>= fun settled => do
      Procedure.reset
      return settled : Procedure (Except Failure Unit)).finishAmid (Transport.eventful [] []) gaps 5
        (waiting gaps world) := rfl
  obtain ⟨number, later, ended, -⟩ := finishAmid_settle gaps world bound step [.sent, .fail] _
  rw [opened, ended]
  rfl

/-- The end of a read, behind its wait and when the bytes were taken. -/
def closing (step : String) (settled : Except Failure Unit) (response : Option Bytes) :
    Procedure (Except Failure Bytes) :=
  match settled, response with
  | .error failure, _ => return .error failure
  | .ok _, none => return .error (.protocol (step ++ ": no response data"))
  | .ok _, some bytes => return .ok bytes

/-- A read amid others gives what its wait says, with the bytes that are there when they are
taken. -/
theorem finishAmid_read :
    ((read bound step characteristic).run.finishAmid (Transport.eventful [] []) gaps 0 world).1 =
      brought step (judgeAmid gaps bound step [.success, .fail] world.tracker)
        ((awaited gaps world.tracker).intervene (gaps 6)).response := by
  have opened : (read bound step characteristic).run.finishAmid (Transport.eventful [] [])
      gaps 0 world =
    (settle bound step (opened gaps world.tracker).epoch [.success, .fail] >>= fun settled => do
      let response ← Procedure.takeResponse
      Procedure.reset
      closing step settled response : Procedure (Except Failure Bytes)).finishAmid
        (Transport.eventful [] []) gaps 5 (waiting gaps world) := rfl
  obtain ⟨number, later, ended, succeeded⟩ :=
    finishAmid_settle gaps world bound step [.success, .fail] _
  rw [opened, ended]
  cases judged : judgeAmid gaps bound step [.success, .fail] world.tracker with
  | error failure => rfl
  | ok _ =>
    obtain ⟨rfl, met⟩ := succeeded judged
    rw [← met]
    change (Procedure.finishAmid _ gaps
      (closing step (.ok ()) (later.tracker.intervene (gaps 6)).response) 8 _).1 = _
    cases (later.tracker.intervene (gaps 6)).response with
    | none => rfl
    | some bytes => rfl

end

section

variable {gaps : Gaps} {tracker : Tracker} {bound : Nat} {step : String} {targets : List Phase}

/-- A wait that reaches a phase finds it in a tracker that was not torn down. -/
theorem reached_phase {phase : Phase}
    (reached : tracker.verdict? targets = some (.reached phase)) :
    tracker.cancelled = false ∧ tracker.phase = phase := by
  unfold Tracker.verdict? at reached
  split at reached
  · cases reached
  rename_i running
  split at reached
  · cases reached
    exact ⟨by simpa using running, rfl⟩
  · cases reached

/-- What the wait of a step ends with is explained by what was done since the hand-over. -/
theorem awaited_explained (gaps : Gaps) (tracker : Tracker) :
    Explained (opened gaps tracker).epoch (gaps 3 ++ gaps 4 ++ gaps 5) (awaited gaps tracker) :=
  have handed : Explained (opened gaps tracker).epoch [] (entrusted gaps tracker) :=
    .handed rfl (Tracker.epoch_le_intervene _ (gaps 2))
  ((handed.intervene (gaps 3)).intervene (gaps 4)).intervene (gaps 5)

/-- A wait that blames the transport found a failure, no loss of the link, and an error. -/
theorem judgeAmid_transport {named reason : String}
    (blamed : judgeAmid gaps bound step targets tracker = .error (.transport named reason)) :
    named = step ∧ ∃ content, .report ⟨tracker.cycle + 1⟩ content ∈ gaps 3 ++ gaps 4 ++ gaps 5 ∧
      content.error = some reason := by
  have cycle : (awaited gaps tracker).cycle = tracker.cycle + 1 := by
    simp [awaited, entrusted, opened, Tracker.reset, Tracker.queue]
  have explained := awaited_explained gaps tracker
  unfold judgeAmid at blamed
  cases decided : (awaited gaps tracker).verdict? targets with
  | none => simp [decided] at blamed
  | some verdict =>
    cases verdict with
    | timedOut => simp [decided] at blamed
    | cancelled => simp [decided] at blamed
    | reached phase =>
      cases phase with
      | fail =>
        obtain ⟨-, failed⟩ := reached_phase decided
        simp only [decided, Option.getD_some] at blamed
        split at blamed
        case isFalse => cases blamed
        rename_i same
        have kept : (awaited gaps tracker).epoch = (opened gaps tracker).epoch :=
          Nat.le_antisymm (same ▸ Tracker.epoch_le_intervene _ (gaps 6)) explained.losses
        obtain ⟨content, given, among, brought, error⟩ := explained.failure failed kept
        obtain ⟨stillFailed, errorCounted, -⟩ := Tracker.intervene_decided (.inr failed) (gaps 6)
        obtain ⟨-, errorLater, -⟩ :=
          Tracker.intervene_decided (.inr (stillFailed.trans failed)) (gaps 7)
        rw [errorLater, errorCounted, error, Option.getD_some] at blamed
        cases blamed
        exact ⟨rfl, content, cycle ▸ among, brought⟩
      | new => simp [decided] at blamed
      | queued => simp [decided] at blamed
      | sent => simp [decided] at blamed
      | success => simp [decided] at blamed

/-- A wait never blames the light. -/
theorem judgeAmid_lawful (detail : String) :
    judgeAmid gaps bound step targets tracker ≠ .error (.protocol detail) := by
  simp only [judgeAmid]
  split
  · split <;> nofun
  all_goals nofun

/-- A wait for a phase succeeds exactly if it reaches that phase. -/
theorem judgeAmid_ok {good : Phase} (different : good ≠ .fail) :
    judgeAmid gaps bound step [good, .fail] tracker = .ok () ↔
      (awaited gaps tracker).verdict? [good, .fail] = some (.reached good) := by
  cases decided : (awaited gaps tracker).verdict? [good, .fail] with
  | none => simp [judgeAmid, decided]
  | some verdict =>
    cases verdict with
    | timedOut => simp [judgeAmid, decided]
    | cancelled => simp [judgeAmid, decided]
    | reached phase =>
      have target : phase = good ∨ phase = .fail := by
        unfold Tracker.verdict? at decided
        grind
      rcases target with rfl | rfl
      · cases phase <;> simp_all [judgeAmid]
      · simp only [judgeAmid, decided, Option.getD_some]
        split <;> simp [different.symm]

/-- A read fails by its wait, or because there are no bytes after a wait that succeeded. -/
theorem brought_error {judged : Except Failure Unit} {response : Option Bytes}
    {failure : Failure} :
    brought step judged response = .error failure ↔ judged = .error failure ∨
      judged = .ok () ∧ response = none ∧ failure = .protocol (step ++ ": no response data") := by
  cases judged with
  | error other => simp [brought]
  | ok _ => cases response <;> simp [brought, eq_comm]

/-- Bytes that a read waited for are there when it takes them, unless a teardown came in between. -/
theorem response_dropped
    (reached : (awaited gaps tracker).verdict? [.success, .fail] = some (.reached .success)) :
    ((awaited gaps tracker).intervene (gaps 6)).response = none ↔
      .disturbance .cancel ∈ gaps 6 := by
  obtain ⟨running, succeeded⟩ := reached_phase reached
  have there := (awaited_explained gaps tracker).success succeeded running
  obtain ⟨-, -, response⟩ := Tracker.intervene_decided (.inl succeeded) (gaps 6)
  obtain ⟨bytes, brought⟩ := Option.isSome_iff_exists.mp there
  rw [response, brought]
  split <;> simp_all

end

end Step

/-- Whatever others do between the actions of a step, a step that blames the transport gives the
reason that was reported through its own completion, never one of its own making; a write never
blames the light; and a read says that no bytes came exactly if its wait succeeded and the tracker
was torn down before the bytes were taken. -/
theorem fallbacks_reached (gaps : Gaps) (world : World State) (bound : Nat) (step : String)
    (characteristic : Characteristic) (value : Bytes) :
    let transport : Transport State := .eventful [] []
    let written := ((Step.write bound step characteristic value).run.finishAmid transport gaps 0
      world).1
    let got := ((Step.read bound step characteristic).run.finishAmid transport gaps 0 world).1
    (∀ named reason,
      written = .error (.transport named reason) ∨ got = .error (.transport named reason) →
        named = step ∧ ∃ content, content.error = some reason ∧
          .report (Step.issued world.tracker) content ∈ gaps 3 ++ gaps 4 ++ gaps 5) ∧
      (∀ detail, written ≠ .error (.protocol detail)) ∧
      ∀ detail, got = .error (.protocol detail) ↔ detail = step ++ ": no response data" ∧
        (Step.awaited gaps world.tracker).verdict? [.success, .fail] = some (.reached .success) ∧
        .disturbance .cancel ∈ gaps 6 := by
  intro transport written got
  have wrote : written = _ := Step.finishAmid_write gaps world bound step characteristic value
  have read : got = _ := Step.finishAmid_read gaps world bound step characteristic
  have blamedBy {targets : List Phase} {named reason : String}
      (blamed : Step.judgeAmid gaps bound step targets world.tracker =
        .error (.transport named reason)) :
      named = step ∧ ∃ content, content.error = some reason ∧
        .report (Step.issued world.tracker) content ∈ gaps 3 ++ gaps 4 ++ gaps 5 := by
    obtain ⟨named, content, among, failure⟩ := Step.judgeAmid_transport blamed
    exact ⟨named, content, failure, among⟩
  rw [wrote, read]
  refine ⟨?_, Step.judgeAmid_lawful, ?_⟩
  · rintro named reason (blamed | blamed)
    · exact blamedBy blamed
    · obtain judged | ⟨-, -, protocol⟩ := Step.brought_error.mp blamed
      · exact blamedBy judged
      · cases protocol
  · intro detail
    have succeeded : Step.judgeAmid gaps bound step [.success, .fail] world.tracker = .ok () ↔ _ :=
      Step.judgeAmid_ok (by decide)
    rw [← succeeded, Step.brought_error]
    constructor
    · rintro (judged | ⟨judged, missing, named⟩)
      · exact absurd judged (Step.judgeAmid_lawful detail)
      · cases named
        exact ⟨rfl, judged, (Step.response_dropped (succeeded.mp judged)).mp missing⟩
    · rintro ⟨rfl, judged, dropped⟩
      exact .inr ⟨judged, (Step.response_dropped (succeeded.mp judged)).mpr dropped, rfl⟩

/-- The light answers a read of the pairing at once, and the tracker is torn down between the end
of the wait and the taking of the bytes: the light is blamed for an answer without bytes. -/
theorem torn_read_misreported :
    let gaps : Gaps := fun
      | 4 => [.report ⟨1⟩ (.delivered [7])]
      | 6 => [.disturbance .cancel]
      | _ => []
    let world : World Unit := { transport := () }
    ((Step.read defaultBound "pair response" .pairing).run.finishAmid (.eventful [] []) gaps 0
      world).1 = .error (.protocol "pair response: no response data") := rfl

end MeshLight.Session
