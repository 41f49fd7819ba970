import MeshLight.Proofs.Bulb.Calm
import MeshLight.Proofs.Session.Finish
import MeshLight.Proofs.Session.Step

/-!
# Steps in calm

Towards a bulb in calm every step succeeds, because its call is a turn that reports success and
disturbs nothing. The tracker behind it is the one before it, two cycles later.
-/

namespace MeshLight.Session

open Link (Phase Characteristic Turn Report Access)

/-- Nobody tore the tracker down, and the bulb is in calm. -/
structure Calm (world : World Bulb) : Prop where
  running : world.tracker.cancelled = false
  bulb : world.transport.Calm

namespace Step

/-- The world behind a step in calm. -/
def rested (bulb : Bulb) (world : World Bulb) : World Bulb :=
  { world with
    tracker := settled {} world.tracker
    transport := bulb }

/-- A step in calm tears nothing down. -/
@[simp] theorem rested_cancelled (bulb : Bulb) (world : World Bulb) :
    (rested bulb world).tracker.cancelled = world.tracker.cancelled :=
  Bool.or_false _

/-- It loses no link. -/
@[simp] theorem rested_epoch (bulb : Bulb) (world : World Bulb) :
    (rested bulb world).tracker.epoch = world.tracker.epoch := rfl

/-- It leaves the key. -/
@[simp] theorem rested_key (bulb : Bulb) (world : World Bulb) :
    (rested bulb world).tracker.key = world.tracker.key := rfl

/-- A call of a bulb is a turn with its report and without disturbances. -/
theorem called_bulb (access : Access) (world : World Bulb) :
    called Bulb.transport access world =
      { world with
        tracker := left { report := (access.onBulb world.transport).1 } world.tracker
        transport := (access.onBulb world.transport).2 } := by
  have opened : called Bulb.transport access world =
      { world with
        tracker := Bulb.deliver (issued world.tracker) (access.onBulb world.transport).1
          (handed world.tracker)
        transport := (access.onBulb world.transport).2 } := by
    cases access <;> rfl
  rw [opened]
  cases (access.onBulb world.transport).1 <;> rfl

/-- A call that reports a success ends a step without counting anything. -/
theorem closed_bulb {Value : Type} {wanted : Report → Option Value} {good : Phase} {bound : Nat}
    {step : String} {report : Report} {value : Value} (bulb : Bulb) (world : World Bulb)
    (tabled : Tabled wanted good bound step { report := some report } world.tracker)
    (succeeded : outcome wanted bound step world.tracker.cancelled { report := some report } =
      .ok value) :
    judge bound step world.tracker.epoch [good, .fail]
        (left { report := some report } world.tracker) = .ok () ∧
      closed step [good, .fail]
        { world with
          tracker := left { report := some report } world.tracker
          transport := bulb } = rested bulb world := by
  obtain ⟨judged, counts⟩ := tabled
  rw [succeeded] at judged counts
  have uncounted : counted (.ok value : Except Failure Value) = [] := rfl
  refine ⟨judged, ?_⟩
  rw [closed, left_reset, counts, uncounted, List.append_nil]
  rfl

variable {world : World Bulb} (calm : Calm world) (bound : Nat) (step : String)
  (characteristic : Characteristic)

include calm

/-- In calm a write succeeds. -/
theorem finish_calm_write (value : Bytes) :
    (write bound step characteristic value).run.finish Bulb.transport world =
      (.ok (), rested (world.transport.taking characteristic value) world) := by
  have row : Tabled taken .sent bound step { report := some .written } world.tracker :=
    tabled (fun report _ => by cases report <;> simp [taken, Report.phase]) (by decide)
  have succeeded : outcome taken bound step world.tracker.cancelled { report := some .written } =
      .ok () := by
    simp [outcome, calm.running, Turn.disturbances, Report.error, taken]
  obtain ⟨judged, closing⟩ := closed_bulb (world.transport.taking characteristic value) world row
    succeeded
  rw [finish_write, called_bulb]
  simp only [Access.onBulb, calm.bulb.write_eq, judged, closing]

/-- In calm a read brings its bytes. -/
theorem finish_calm_read :
    (read bound step characteristic).run.finish Bulb.transport world =
      (.ok (world.transport.answering characteristic).1,
        rested (world.transport.answering characteristic).2 world) := by
  generalize answered : world.transport.answering characteristic = answer
  obtain ⟨bytes, bulb⟩ := answer
  have row : Tabled Report.response .success bound step { report := some (.delivered bytes) }
      world.tracker :=
    tabled (fun report failed => by
      cases report <;> simp_all [Report.response, Report.phase, Report.error]) (by decide)
  have succeeded : outcome Report.response bound step world.tracker.cancelled
      { report := some (.delivered bytes) } = .ok bytes := by
    simp [outcome, calm.running, Turn.disturbances, Report.error, Report.response]
  obtain ⟨judged, closing⟩ := closed_bulb bulb world row succeeded
  rw [finish_read, called_bulb]
  simp only [Access.onBulb, calm.bulb.read_eq, answered, judged, closing, left_response succeeded]
  rfl

end Step

end MeshLight.Session
