import Mathlib.Data.Nat.Init
import MeshLight.Proofs.Session.Course

/-!
# Endless courses

A course without an end, one occurrence for each number. What other parties do cannot keep a worker
from going on, because it changes neither what the worker is doing nor what is in front of its
queue. So if a worker that can go on always does so at some later time, each of its operations ends:
a procedure is a tree without endless branches, and every time that the worker goes on it moves to a
branch.
-/

namespace MeshLight.Session

open Link (Transport)

namespace Worker

variable {State : Type}

/-- The worker goes on by itself in this occurrence. -/
def GoesOn (transport : Transport State) (worker : Worker State) : Occurrence → Prop
  | .step => (worker.step? transport).isSome
  | .expire => worker.expire?.isSome
  | _ => False

/-- The worker can go on by itself. -/
def CanGoOn (transport : Transport State) (worker : Worker State) : Prop :=
  ∃ occurrence, worker.GoesOn transport occurrence

/-- The worker in the course of as many occurrences as the number says. -/
def endless (transport : Transport State) (worker : Worker State) (course : Nat → Occurrence) :
    Nat → Worker State
  | 0 => worker
  | number + 1 => (worker.endless transport course number).occur transport (course number)

/-- A worker that can go on always does so at some later time. -/
def Fair (transport : Transport State) (worker : Worker State) (course : Nat → Occurrence) : Prop :=
  ∀ number, (worker.endless transport course number).CanGoOn transport →
    ∃ later, number ≤ later ∧
      (worker.endless transport course later).GoesOn transport (course later)

variable {transport : Transport State} {worker : Worker State}

/-- What holds at some time and is kept by every occurrence holds from then on. The induction is on
how much later it is. -/
theorem endless_keeps (holds : Worker State → Prop)
    (keeps : ∀ {worker : Worker State}, holds worker → ∀ occurrence,
      holds (worker.occur transport occurrence))
    {course : Nat → Occurrence} {number later : Nat} (after : number ≤ later)
    (now : holds (worker.endless transport course number)) :
    holds (worker.endless transport course later) := by
  induction later, after using Nat.le_induction with
  | base => exact now
  | succ later _ inductionHypothesis => exact keeps inductionHypothesis (course later)

/-- The worker is where it was; at most messages came, behind all others. -/
structure Waits (worker later : Worker State) : Prop where
  activity : later.activity = worker.activity
  controller : later.controller = worker.controller
  queue : ∃ more, later.queue = worker.queue ++ more

/-- It waits for no time at all. -/
theorem Waits.refl (worker : Worker State) : Waits worker worker :=
  ⟨rfl, rfl, [], (List.append_nil _).symm⟩

/-- It waits twice. -/
theorem Waits.trans {middle later : Worker State} (one : Waits worker middle)
    (two : Waits middle later) : Waits worker later := by
  obtain ⟨first, grown⟩ := one.queue
  obtain ⟨second, further⟩ := two.queue
  exact ⟨two.activity.trans one.activity, two.controller.trans one.controller, first ++ second,
    by rw [further, grown, List.append_assoc]⟩

/-- A message that is put into the queue. -/
theorem enqueue_waits (message : Message) (worker : Worker State) :
    Waits worker (worker.enqueue message) := by
  unfold enqueue
  split
  · exact .refl worker
  · exact ⟨rfl, rfl, [message], rfl⟩

/-- A worker that does not go on waits. -/
theorem occur_waits {occurrence : Occurrence} (waits : ¬worker.GoesOn transport occurrence) :
    Waits worker (worker.occur transport occurrence) := by
  have still : ∃ more, worker.queue = worker.queue ++ more := ⟨[], (List.append_nil _).symm⟩
  generalize happened : worker.occur transport occurrence = later
  cases occurs happened with
  | unstepped => exact .refl worker
  | stepped stepped => exact absurd (by simp [GoesOn, stepped]) waits
  | unexpired => exact .refl worker
  | expired _ _ _ _ undecided => exact absurd undecided waits
  | shared => exact ⟨rfl, rfl, still⟩
  | submitted request =>
    have numbered : Waits worker { worker with nextTicket := worker.nextTicket + 1 } :=
      ⟨rfl, rfl, still⟩
    exact numbered.trans (enqueue_waits _ _)
  | dropped => exact ⟨rfl, rfl, still⟩
  | missed => exact ⟨rfl, rfl, still⟩
  | asked =>
    have marked : Waits worker { worker with pairQueued := true } := ⟨rfl, rfl, still⟩
    exact marked.trans (enqueue_waits _ _)
  | ignored => exact .refl worker
  | shut =>
    have torn : Waits worker
        { worker with world := worker.world.withTracker worker.tracker.cancel } :=
      ⟨rfl, rfl, still⟩
    exact torn.trans (enqueue_waits _ _)

/-- A worker can go on with any operation. -/
theorem busy_canGoOn {ticket : Option Nat} {operation : Procedure (Result × Controller)}
    {spent : Nat} (busy : worker.activity = .busy ticket operation spent) :
    worker.CanGoOn transport := by
  cases operation with
  | done ended => exact ⟨.step, by simp [GoesOn, step?, busy]⟩
  | act action next => exact ⟨.step, by simp [GoesOn, step?, busy]⟩
  | await bound targets next =>
    cases decided : worker.tracker.verdict? targets with
    | some verdict => exact ⟨.step, by simp [GoesOn, step?, busy, decided]⟩
    | none => exact ⟨.expire, by simp [GoesOn, expire?, busy, decided]⟩

/-- A worker without an operation can go on if there is a message. -/
theorem idle_canGoOn {message : Message} {queue : List Message} (idle : worker.activity = .idle)
    (queued : worker.queue = message :: queue) : worker.CanGoOn transport :=
  ⟨.step, by simp [GoesOn, step?, idle, queued]⟩

/-- It goes on by beginning the first message. -/
theorem idle_goesOn {message : Message} {queue : List Message} {occurrence : Occurrence}
    (idle : worker.activity = .idle) (queued : worker.queue = message :: queue)
    (goes : worker.GoesOn transport occurrence) :
    worker.occur transport occurrence = ({ worker with queue } : Worker State).begin message := by
  cases occurrence with
  | step => simp [occur, step?, idle, queued]
  | expire => simp [GoesOn, expire?, idle] at goes
  | _ => cases goes

/-- A worker at an action goes on by performing it. -/
theorem act_goesOn {ticket : Option Nat} {action : Action}
    {next : action.Reply → Procedure (Result × Controller)} {spent : Nat} {occurrence : Occurrence}
    (busy : worker.activity = .busy ticket (.act action next) spent)
    (goes : worker.GoesOn transport occurrence) :
    occurrence = .step ∧ worker.occur transport occurrence =
      { worker with
        world := (action.perform transport worker.world).2
        activity := .busy ticket (next (action.perform transport worker.world).1) 0 } := by
  cases occurrence with
  | step => exact ⟨rfl, by simp [occur, step?, busy]⟩
  | expire => simp [GoesOn, expire?, busy] at goes
  | _ => cases goes

/-- A worker at a wait goes on with some verdict. -/
theorem await_goesOn {ticket : Option Nat} {bound : Nat} {targets : List Link.Phase}
    {next : Link.Verdict → Procedure (Result × Controller)} {spent : Nat} {occurrence : Occurrence}
    (busy : worker.activity = .busy ticket (.await bound targets next) spent)
    (goes : worker.GoesOn transport occurrence) :
    ∃ verdict, worker.occur transport occurrence =
      { worker with activity := .busy ticket (next verdict) 0 } := by
  cases occurrence with
  | step =>
    cases decided : worker.tracker.verdict? targets with
    | some verdict => exact ⟨verdict, by simp [occur, step?, busy, decided]⟩
    | none => simp [GoesOn, step?, busy, decided] at goes
  | expire =>
    cases decided : worker.tracker.verdict? targets with
    | some verdict => simp [GoesOn, expire?, busy, decided] at goes
    | none => exact ⟨.timedOut, by simp [occur, expire?, busy, decided]⟩
  | _ => cases goes

/-- A worker at the end of an operation goes on by concluding it. -/
theorem done_goesOn {ticket : Option Nat} {result : Result} {controller : Controller} {spent : Nat}
    {occurrence : Occurrence}
    (busy : worker.activity = .busy ticket (.done (result, controller)) spent)
    (goes : worker.GoesOn transport occurrence) :
    worker.occur transport occurrence = worker.conclude ticket result controller := by
  cases occurrence with
  | step => simp [occur, step?, busy]
  | expire => simp [GoesOn, expire?, busy] at goes
  | _ => cases goes

namespace Fair

variable {course : Nat → Occurrence} (fair : worker.Fair transport course)

include fair

/-- A worker that can go on waits at most, and goes on. -/
theorem goes_on {number : Nat}
    (able : (worker.endless transport course number).CanGoOn transport) :
    ∃ later, number ≤ later ∧
      (worker.endless transport course later).GoesOn transport (course later) ∧
      Waits (worker.endless transport course number) (worker.endless transport course later) := by
  obtain ⟨later, after, reached⟩ := fair number able
  obtain ⟨distance, rfl⟩ := Nat.exists_eq_add_of_le after
  clear after able
  -- On how far off a time is at which the worker goes on; there may be one before it.
  induction distance generalizing number with
  | zero => exact ⟨number, Nat.le_refl _, reached, .refl _⟩
  | succ distance inductionHypothesis =>
    by_cases already : (worker.endless transport course number).GoesOn transport (course number)
    · exact ⟨number, Nat.le_refl _, already, .refl _⟩
    · have shifted : number + 1 + distance = number + (distance + 1) := by omega
      obtain ⟨later, after, goes, waits⟩ := inductionHypothesis (shifted.symm ▸ reached)
      exact ⟨later, by omega, goes, (occur_waits already).trans waits⟩

/-- Every operation ends, and meanwhile nothing leaves the queue. The induction is on the
operation. -/
theorem ends (operation : Procedure (Result × Controller)) {number spent : Nat}
    {ticket : Option Nat}
    (busy : (worker.endless transport course number).activity = .busy ticket operation spent) :
    ∃ later, number ≤ later ∧ (worker.endless transport course later).activity = .idle ∧
      ∃ more, (worker.endless transport course later).queue =
        (worker.endless transport course number).queue ++ more := by
  induction operation generalizing number spent with
  | done ended =>
    obtain ⟨later, after, goes, ⟨same, -, more, grown⟩⟩ := fair.goes_on (busy_canGoOn busy)
    have concluded := done_goesOn (same.trans busy) goes
    exact ⟨later + 1, by omega, by rw [endless, concluded]; rfl, more,
      by rw [endless, concluded]; exact grown⟩
  | act action next inductionHypothesis =>
    obtain ⟨later, after, goes, ⟨same, -, more, grown⟩⟩ := fair.goes_on (busy_canGoOn busy)
    obtain ⟨-, performed⟩ := act_goesOn (same.trans busy) goes
    have moved : (worker.endless transport course (later + 1)).activity =
      .busy ticket (next _) 0 := congrArg Worker.activity performed
    have kept : (worker.endless transport course (later + 1)).queue =
      (worker.endless transport course later).queue := (congrArg Worker.queue performed).trans rfl
    obtain ⟨final, beyond, idle, further, extended⟩ := inductionHypothesis _ moved
    exact ⟨final, by omega, idle, more ++ further,
      by rw [extended, kept, grown, List.append_assoc]⟩
  | await bound targets next inductionHypothesis =>
    obtain ⟨later, after, goes, ⟨same, -, more, grown⟩⟩ := fair.goes_on (busy_canGoOn busy)
    obtain ⟨verdict, decided⟩ := await_goesOn (same.trans busy) goes
    have moved : (worker.endless transport course (later + 1)).activity =
      .busy ticket (next verdict) 0 := congrArg Worker.activity decided
    have kept : (worker.endless transport course (later + 1)).queue =
      (worker.endless transport course later).queue := (congrArg Worker.queue decided).trans rfl
    obtain ⟨final, beyond, idle, further, extended⟩ := inductionHypothesis _ moved
    exact ⟨final, by omega, idle, more ++ further,
      by rw [extended, kept, grown, List.append_assoc]⟩

end Fair

/-! ## Fair courses -/

/-- What others do, with a step and the end of a wait before each. -/
def interleave (others : Nat → Occurrence) (number : Nat) : Occurrence :=
  match number % 3 with
  | 0 => .step
  | 1 => .expire
  | _ => others (number / 3)

/-- A worker that waits can go on as before. -/
theorem Waits.canGoOn {later : Worker State} (waits : Waits worker later)
    (able : worker.CanGoOn transport) : later.CanGoOn transport := by
  cases activity : worker.activity with
  | busy ticket operation spent => exact busy_canGoOn (waits.activity.trans activity)
  | stopped =>
    obtain ⟨occurrence, goes⟩ := able
    cases occurrence <;> simp [GoesOn, step?, expire?, activity] at goes
  | idle =>
    cases queued : worker.queue with
    | nil =>
      obtain ⟨occurrence, goes⟩ := able
      cases occurrence <;> simp [GoesOn, step?, expire?, activity, queued] at goes
    | cons message queue =>
      obtain ⟨more, grown⟩ := waits.queue
      exact idle_canGoOn (waits.activity.trans activity)
        (grown.trans (by rw [queued, List.cons_append]))

/-- Whatever others do, there is a fair course in which they do it. -/
theorem interleave_fair (others : Nat → Occurrence) :
    worker.Fair transport (interleave others) := by
  intro number able
  by_contra never
  have waits (later : Nat) (after : number ≤ later) :
      ¬(worker.endless transport (interleave others) later).GoesOn transport
        (interleave others later) := fun goes => never ⟨later, after, goes⟩
  have still (later : Nat) (after : number ≤ later) :
      (worker.endless transport (interleave others) later).CanGoOn transport := by
    induction later, after using Nat.le_induction with
    | base => exact able
    | succ later after inductionHypothesis =>
      exact (occur_waits (waits later after)).canGoOn inductionHypothesis
  -- The next time at which the worker would do a step.
  have unstepped := waits (3 * number) (by omega)
  have unexpired := waits (3 * number + 1) (by omega)
  have stepping : interleave others (3 * number) = .step := by simp [interleave]
  have expiring : interleave others (3 * number + 1) = .expire := by
    have second : (3 * number + 1) % 3 = 1 := by omega
    simp [interleave, second]
  rw [stepping] at unstepped
  rw [expiring, endless, stepping] at unexpired
  obtain ⟨occurrence, goes⟩ := still (3 * number) (by omega)
  cases occurrence with
  | step => exact unstepped goes
  | expire =>
    have none : (worker.endless transport (interleave others) (3 * number)).step? transport =
        none := by simpa [GoesOn] using unstepped
    rw [occur, none] at unexpired
    exact unexpired goes
  | _ => exact goes

end Worker

end MeshLight.Session
