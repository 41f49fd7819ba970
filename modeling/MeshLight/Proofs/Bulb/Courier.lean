import MeshLight.Proofs.Bulb.Session
import MeshLight.Proofs.Link.Script

/-!
# A bulb with a courier

A bulb answers a call at once but hands the answer to a courier, who delivers it to the tracker
later, or never. Between any two actions of a controller the courier may deliver something, the link
may be lost, the tracker may be torn down, and somebody may bring the link up again or put faults in
force; only the controller drops the link, and no fault forges the answer to a pairing.

What stays true whatever these parties do is called steady. The agreement of the two sides about the
key is.
-/

namespace MeshLight

open Link (Access Characteristic Completion Disturbance Report Tracker Transport)

/-- A bulb and the answers that were not delivered yet, each with its completion, oldest first. -/
structure Courier where
  bulb : Bulb
  jobs : List (Completion × Report) := []

namespace Courier

/-- Takes what a bulb answered, if it answered. -/
def accept (completion : Completion) (answer : Option Report × Bulb) (courier : Courier) :
    Courier :=
  { bulb := answer.2
    jobs := courier.jobs ++ answer.1.toList.map fun report => (completion, report) }

/-- A bulb whose answers are delivered some time after the call. -/
def transport : Transport Courier where
  write characteristic value completion := fun (courier, tracker) =>
    (courier.accept completion (courier.bulb.write characteristic value), tracker)
  read characteristic completion := fun (courier, tracker) =>
    (courier.accept completion (courier.bulb.read characteristic), tracker)
  disconnect := fun (courier, tracker) =>
    ({ courier with bulb := courier.bulb.disconnect }, tracker)

end Courier

/-- What the controller shares with other parties. -/
abbrev Scene := Courier × Tracker

/-- Something that another party does: it disturbs the tracker, delivers the answer with a number,
puts faults in force, though none that forges the answer to a pairing, or brings the link up. -/
inductive Move where
  | disturbance (content : Disturbance)
  | deliver (number : Nat)
  | setFaults (faults : Faults)
  | connect
  deriving Repr, DecidableEq

namespace Move

/-- What is shared after a move. -/
def apply : Move → Scene → Scene
  | .disturbance content, (courier, tracker) => (courier, content.apply tracker)
  | .deliver number, (courier, tracker) =>
    match courier.jobs[number]? with
    | none => (courier, tracker)
    | some (completion, report) =>
      ({ courier with jobs := courier.jobs.eraseIdx number },
        (tracker.complete completion report).2)
  | .setFaults faults, (courier, tracker) =>
    ({ courier with bulb := courier.bulb.setFaults { faults with pairResponse := none } }, tracker)
  | .connect, (courier, tracker) => ({ courier with bulb := courier.bulb.connect }, tracker)

/-- What is shared after moves, first one first. -/
def applyAll (moves : List Move) (scene : Scene) : Scene :=
  moves.foldl (fun current move => move.apply current) scene

/-- Moves behind moves. -/
theorem applyAll_append (first second : List Move) (scene : Scene) :
    applyAll (first ++ second) scene = applyAll second (applyAll first scene) :=
  List.foldl_append

end Move

/-- What no move of another party takes back. -/
def Steady (assertion : Scene → Prop) : Prop :=
  ∀ (move : Move) (scene : Scene), assertion scene → assertion (move.apply scene)

namespace Steady

/-- What is steady stays true during any number of moves. -/
theorem applyAll {assertion : Scene → Prop} (steady : Steady assertion) (moves : List Move)
    {scene : Scene} (now : assertion scene) : assertion (Move.applyAll moves scene) := by
  induction moves generalizing scene with
  | nil => exact now
  | cons move moves inductionHypothesis => exact inductionHypothesis (steady move scene now)

/-- Nothing is always true. -/
theorem trivial : Steady fun _ => True :=
  fun _ _ _ => True.intro

end Steady

/-- Both sides agree about the key: one on this side is the key of a bulb whose link is up. No fault
forges an answer, and no answer is under way for a cycle that has not begun. -/
structure Sound (scene : Scene) : Prop where
  agreement : ∀ key, scene.2.key = some key →
    scene.1.bulb.connected = true ∧ scene.1.bulb.key = some key
  honest : scene.1.bulb.faults.pairResponse = none
  past : ∀ job ∈ scene.1.jobs, job.1.cycle ≤ scene.2.cycle

/-- A disturbance drops the key and ends no cycle. -/
theorem Link.Disturbance.apply_frame (disturbance : Disturbance) (tracker : Tracker) :
    (disturbance.apply tracker).key = none ∧
      (disturbance.apply tracker).cycle = tracker.cycle := by
  have key := tracker.disturb_key [disturbance]
  have cycle := tracker.disturb_cycle [disturbance]
  exact ⟨by simpa using key, by simpa using cycle⟩

/-- No move makes the two sides disagree. -/
theorem Sound.steady : Steady Sound := by
  rintro move ⟨courier, tracker⟩ ⟨agreement, honest, past⟩
  cases move with
  | disturbance content =>
    obtain ⟨key, cycle⟩ := Disturbance.apply_frame content tracker
    refine ⟨?_, honest, fun job among => cycle ▸ past job among⟩
    intro present held
    simp [Move.apply, key] at held
  | deliver number =>
    unfold Move.apply
    dsimp only
    split
    · exact ⟨agreement, honest, past⟩
    · rename_i completion report _
      obtain ⟨key, cycle, -⟩ := tracker.complete_frame completion report
      refine ⟨fun present held => agreement present (key ▸ held), honest, fun job among => ?_⟩
      exact cycle ▸ past job (List.mem_of_mem_eraseIdx among)
  | setFaults faults => exact ⟨agreement, rfl, past⟩
  | connect => exact ⟨fun key held => ⟨rfl, (agreement key held).2⟩, honest, past⟩

end MeshLight
