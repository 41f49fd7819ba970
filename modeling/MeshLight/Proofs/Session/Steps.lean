import MeshLight.Proofs.Session.Step

/-!
# Steps one after the other

An operation is a chain of steps that breaks at the first failure. Whatever the steps were, they
made their calls in order, and everything that their turns did to the tracker adds up: losses are
counted, a cancellation is remembered, and a single disturbance in any of the turns is enough to
drop the key. Between two steps nothing of the earlier one is left.
-/

namespace MeshLight.Session

open Link (Disturbance Tracker Report Turn Script Contact Access)

/-- Nothing is under way, and no bytes and no error are left over. -/
structure Idle (tracker : Tracker) : Prop where
  phase : tracker.phase = .new
  response : tracker.response = none
  error : tracker.error = none

/-- The disturbances of so many turns of a script, first one first. -/
def met (script : Script) (start : Nat) (number : Nat) : List Disturbance :=
  (List.range number).flatMap fun offset => (script (start + offset)).disturbances

/-- The disturbances of two runs of turns. -/
theorem met_add (script : Script) (start first second : Nat) :
    met script start (first + second) =
      met script start first ++ met script (start + first) second := by
  simp only [met, List.range_add, List.flatMap_append, List.flatMap_map, Nat.add_assoc]

@[simp] theorem met_zero (script : Script) (start : Nat) : met script start 0 = [] := rfl

@[simp] theorem met_one (script : Script) (start : Nat) :
    met script start 1 = (script start).disturbances := by
  simp [met]

/-- Turns without any disturbance. -/
theorem met_eq_nil (script : Script) (start number : Nat) :
    met script start number = [] ↔
      ∀ offset < number, (script (start + offset)).disturbances = [] := by
  simp [met]

/-- The world after steps that made some accesses, one for each turn. The calls were made in order
and there were no others. Losses add up, one disturbance drops the key, and a cancellation is
remembered; nothing is reported and nothing left over. -/
structure Stepped (script : Script) (accesses : List Access)
    (world later : World (List Contact)) : Prop where
  calls : later.transport.map Contact.access? =
    world.transport.map Contact.access? ++ accesses.map some
  losses : later.tracker.epoch = world.tracker.epoch +
    (met script world.transport.length accesses.length).count .linkLost
  key : later.tracker.key =
    if met script world.transport.length accesses.length = [] then world.tracker.key else none
  mark : later.tracker.cancelled = (world.tracker.cancelled ||
    decide (.cancel ∈ met script world.transport.length accesses.length))
  events : later.events = world.events
  idle : Idle world.tracker → Idle later.tracker

namespace Stepped

variable {script : Script} {world middle later : World (List Contact)}

/-- No step at all. -/
theorem refl (world : World (List Contact)) : Stepped script [] world world where
  calls := by simp
  losses := by simp
  key := by simp
  mark := by simp
  events := rfl
  idle := id

/-- Every access is one more contact. -/
theorem length {accesses : List Access} (stepped : Stepped script accesses world later) :
    later.transport.length = world.transport.length + accesses.length := by
  simpa using congrArg List.length stepped.calls

/-- Steps behind steps. -/
theorem trans {first second : List Access} (one : Stepped script first world middle)
    (two : Stepped script second middle later) :
    Stepped script (first ++ second) world later := by
  have turns : met script world.transport.length (first ++ second).length =
      met script world.transport.length first.length ++
        met script middle.transport.length second.length := by
    rw [List.length_append, met_add, one.length]
  constructor
  · rw [two.calls, one.calls]
    simp
  · rw [two.losses, one.losses, turns, List.count_append, Nat.add_assoc]
  · rw [two.key, one.key, turns]
    by_cases early : met script world.transport.length first.length = [] <;>
      by_cases late : met script middle.transport.length second.length = [] <;>
      simp [early, late]
  · rw [two.mark, one.mark, turns]
    simp [Bool.or_assoc]
  · rw [two.events, one.events]
  · exact fun began => two.idle (one.idle began)

/-- One scripted step, however it ended. -/
theorem behind {Value : Type} (script : Script) (access : Access)
    (outcome : Except Failure Value) (world : World (List Contact)) :
    Stepped script [access] world (Step.behind script access outcome world) where
  calls := by simp [Step.behind, Contact.access?]
  losses := by simp [Step.behind, Step.settled]
  key := by simp [Step.behind, Step.settled]
  mark := by simp [Step.behind, Step.settled]
  events := rfl
  idle _ := ⟨rfl, rfl, rfl⟩

/-- After steps without a disturbance the mark of being cancelled is as before. -/
theorem mark_eq {accesses : List Access} (stepped : Stepped script accesses world later)
    (uncancelled : .cancel ∉ met script world.transport.length accesses.length) :
    later.tracker.cancelled = world.tracker.cancelled := by
  simp [stepped.mark, uncancelled]

/-- Steps leave no key where there was none. -/
theorem keyless {accesses : List Access} (stepped : Stepped script accesses world later)
    (empty : world.tracker.key = none) : later.tracker.key = none := by
  simp [stepped.key, empty]

end Stepped

/-- A tracker that was torn down has no key. -/
def Sealed (tracker : Tracker) : Prop :=
  tracker.cancelled = true → tracker.key = none

/-- Whether a result is a failure that costs the connection. -/
def dropsLink {Value : Type} : Except Failure Value → Bool
  | .error failure => failure.requiresDisconnect
  | .ok _ => false

/-- What the result of an attempt says about the world that it leaves: a success, or a failure that
costs the connection, is none of a tracker that was torn down; any other failure left no key. An
attempt has gone past the checks that refuse credentials. -/
structure Ended {Value : Type} (result : Except Failure Value) (later : World (List Contact)) :
    Prop where
  running : result.isOk = true → later.tracker.cancelled = false
  dropping : dropsLink result = true → later.tracker.cancelled = false
  sparing : result.isOk = false → dropsLink result = false → later.tracker.key = none
  accepting : ∀ fault, result ≠ .error (.invalidCredentials fault)

namespace Step

variable {Value : Type} {wanted : Report → Option Value} {bound : Nat} {step : String}
  {cancelled : Bool} {turn : Turn}

/-- A step that succeeds was not torn down, and neither was one that fails at the cost of the
connection. A step that fails otherwise was torn down or disturbed. -/
theorem outcome_kinds :
    let ended := outcome wanted bound step cancelled turn
    ((ended.isOk = true ∨ dropsLink ended = true) → cancelled = false ∧ .cancel ∉ turn.disturbances)
      ∧ (ended.isOk = false → dropsLink ended = false →
          cancelled = true ∨ turn.disturbances ≠ []) := by
  intro ended
  by_cases torn : cancelled = true ∨ .cancel ∈ turn.disturbances
  · have result : ended = .error .cancelled := by simp [ended, outcome, torn]
    refine ⟨?_, fun _ _ => ?_⟩
    · rw [result]
      rintro (success | drop)
      · cases success
      · cases drop
    · exact torn.imp_right fun cancel => List.ne_nil_of_mem cancel
  · have clear : cancelled = false ∧ .cancel ∉ turn.disturbances := by simpa using torn
    refine ⟨fun _ => clear, fun failed spared => .inr ?_⟩
    by_cases lost : .linkLost ∈ turn.disturbances
    · exact List.ne_nil_of_mem lost
    · have early : .linkLost ∉ turn.before := fun before => lost (List.mem_append_left _ before)
      have late : .linkLost ∉ turn.after := fun after => lost (List.mem_append_right _ after)
      have kept : ended.isOk = true ∨ dropsLink ended = true := by
        simp only [ended, outcome, torn, early, late, if_false]
        cases turn.report with
        | none => exact .inr rfl
        | some report =>
          cases error : report.error with
          | some reason => exact .inr (by simp [error, dropsLink, Failure.requiresDisconnect])
          | none =>
            cases value : wanted report with
            | some content => exact .inl (by simp [error, value, Except.isOk, Except.toBool])
            | none =>
              exact .inr (by simp [error, value, dropsLink, Failure.requiresDisconnect])
      simp [failed, spared] at kept

/-- A step refuses no credentials. -/
theorem outcome_accepting (fault : Frame.Fault) :
    outcome wanted bound step cancelled turn ≠ .error (.invalidCredentials fault) := by
  unfold outcome
  split
  · simp
  · split
    · simp
    · split
      · split <;> simp
      · split
        · split <;> simp
        · simp
        · simp

/-- The turn of a step that succeeds has no cancellation, and there was none before. -/
theorem outcome_ok {value : Value}
    (succeeded : outcome wanted bound step cancelled turn = .ok value) :
    cancelled = false ∧ .cancel ∉ turn.disturbances :=
  outcome_kinds.1 (.inl (by rw [succeeded]; rfl))

end Step

/-- Steps keep it that a tracker that was torn down has no key. -/
theorem Stepped.sealed {script : Script} {accesses : List Access}
    {world later : World (List Contact)} (stepped : Stepped script accesses world later)
    (begun : Sealed world.tracker) : Sealed later.tracker := by
  intro torn
  rw [stepped.mark, Bool.or_eq_true, decide_eq_true_eq] at torn
  rcases torn with before | during
  · exact stepped.keyless (begun before)
  · rw [stepped.key, if_neg (List.ne_nil_of_mem during)]

/-- A scripted step says of its world what its outcome says. -/
theorem Ended.behind {Value : Type} {wanted : Report → Option Value} {bound : Nat} {step : String}
    (script : Script) (access : Access) (world : World (List Contact))
    (begun : Sealed world.tracker) :
    let ended := Step.outcome wanted bound step world.tracker.cancelled
      (script world.transport.length)
    Ended ended (Step.behind script access ended world) := by
  intro ended
  obtain ⟨clear, disturbed⟩ := @Step.outcome_kinds _ wanted bound step world.tracker.cancelled
    (script world.transport.length)
  have unmarked : world.tracker.cancelled = false ∧
      .cancel ∉ (script world.transport.length).disturbances →
        (Step.behind script access ended world).tracker.cancelled = false := by
    rintro ⟨before, during⟩
    simp [Step.behind, Step.settled, before, during]
  refine ⟨fun success => unmarked (clear (.inl success)),
    fun drop => unmarked (clear (.inr drop)), fun failed spared => ?_, Step.outcome_accepting⟩
  rcases disturbed failed spared with torn | disturbed
  · simp [Step.behind, Step.settled, begun torn]
  · simp [Step.behind, Step.settled, disturbed]

/-- An attempt that consists of steps: it makes accesses, leaves nothing over and says of the world
that it leaves what its result says. -/
def Conducted {Value : Type} (script : Script) (attempt : Attempt Value)
    (world : World (List Contact)) : Prop :=
  ∃ accesses,
    Stepped script accesses world (attempt.run.finish script.transport world).2 ∧
      Ended (attempt.run.finish script.transport world).1
        (attempt.run.finish script.transport world).2

namespace Conducted

variable {First Second : Type} {script : Script} {world : World (List Contact)}

/-- A success without a step. -/
theorem succeed (running : world.tracker.cancelled = false) (result : First) :
    Conducted script (pure result : Attempt First) world := by
  refine ⟨[], Stepped.refl world, fun _ => running, fun _ => running, ?_, nofun⟩
  intro failed
  cases failed

/-- A failure without a step, if it costs the connection. -/
theorem fail (running : world.tracker.cancelled = false) {failure : Failure}
    (dropping : failure.requiresDisconnect = true) :
    Conducted script (throw failure : Attempt First) world := by
  refine ⟨[], Stepped.refl world, fun _ => running, fun _ => running, ?_, ?_⟩
  · intro _ spared
    simp [dropsLink, dropping] at spared
  · rintro fault (refused : (.error failure : Except Failure First) = _)
    cases refused
    cases dropping

/-- Attempts one after the other. Only a success leads on, so what follows begins in a world whose
tracker nobody has torn down. -/
theorem bind {first : Attempt First} {second : First → Attempt Second}
    (begins : Conducted script first world)
    (continues : ∀ result later, later.tracker.cancelled = false →
      Conducted script (second result) later) :
    Conducted script (first >>= second) world := by
  obtain ⟨accesses, stepped, ended⟩ := begins
  unfold Conducted
  rw [Procedure.finish_attempt]
  generalize first.run.finish script.transport world = reached at *
  obtain ⟨result, later⟩ := reached
  cases result with
  | error failure =>
    exact ⟨accesses, stepped, ⟨nofun, ended.dropping, ended.sparing,
      fun fault refused => ended.accepting fault (by rw [Except.error.inj refused])⟩⟩
  | ok result =>
    obtain ⟨further, steppedOn, endedOn⟩ := continues result later (ended.running rfl)
    exact ⟨accesses ++ further, stepped.trans steppedOn, endedOn⟩

/-- A write is a step. -/
theorem write (begun : Sealed world.tracker) (bound : Nat) (step : String)
    (characteristic : Link.Characteristic) (value : Bytes) :
    Conducted script (Step.write bound step characteristic value) world := by
  unfold Conducted
  rw [Step.finish_scripted_write]
  exact ⟨_, Stepped.behind script _ _ world, Ended.behind script _ world begun⟩

/-- A read is a step. -/
theorem read (begun : Sealed world.tracker) (bound : Nat) (step : String)
    (characteristic : Link.Characteristic) :
    Conducted script (Step.read bound step characteristic) world := by
  unfold Conducted
  rw [Step.finish_scripted_read]
  exact ⟨_, Stepped.behind script _ _ world, Ended.behind script _ world begun⟩

end Conducted

/-- A tracker that nobody tore down needs no seal. -/
theorem Sealed.of_running {tracker : Tracker} (running : tracker.cancelled = false) :
    Sealed tracker := fun torn => by simp [running] at torn

end MeshLight.Session
