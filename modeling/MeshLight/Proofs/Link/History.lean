import Mathlib.Data.List.Induction
import Mathlib.Tactic.ByContra
import MeshLight.Link.Tracker

/-!
# Histories of a tracker

Everybody who shares a tracker may use any of its operations at any time: cycles are begun and
queued, completions are used late, early or twice, keys are installed and dropped, the link is lost,
the tracker is torn down. A history is such a list of operations, starting from a new tracker.

Some operations decide about the slot of the key: those that drop a key, and installations that are
not refused. The slot holds a key exactly while an installation is the latest of them, and then no
loss of the link separates the key from the link it was derived on.
-/

namespace MeshLight.Link

/-- A single operation on a tracker. Something is reported through the completion with a number
among those handed out, and a key is to be installed that was derived at a number of link losses. -/
inductive Operation where
  | reset
  | setPhase (phase : Phase)
  | queue
  | complete (number : Nat) (report : Report)
  | installKey (key : SessionKey) (epoch : Nat)
  | clearKey
  | linkLost
  | cancel
  | takeResponse
  | takeError
  deriving Repr, DecidableEq

/-- A tracker and the completions that it handed out, oldest first. -/
structure Shared where
  tracker : Tracker := {}
  handed : List Completion := []
  deriving Repr, DecidableEq

namespace Operation

/-- What is shared after an operation. A number that no completion has changes nothing. -/
def apply (operation : Operation) (shared : Shared) : Shared :=
  match operation with
  | .reset => { shared with tracker := shared.tracker.reset }
  | .setPhase phase => { shared with tracker := shared.tracker.setPhase phase }
  | .queue =>
    let (completion, tracker) := shared.tracker.queue
    { tracker, handed := shared.handed ++ [completion] }
  | .complete number report =>
    match shared.handed[number]? with
    | none => shared
    | some completion =>
      { shared with tracker := (shared.tracker.complete completion report).2 }
  | .installKey key epoch =>
    { shared with tracker := (shared.tracker.installKey key epoch).2 }
  | .clearKey => { shared with tracker := shared.tracker.clearKey.2 }
  | .linkLost => { shared with tracker := shared.tracker.linkLost.2 }
  | .cancel => { shared with tracker := shared.tracker.cancel }
  | .takeResponse => { shared with tracker := shared.tracker.takeResponse.2 }
  | .takeError => { shared with tracker := shared.tracker.takeError.2 }

/-- Whether an operation decides about the slot of the key: it drops a key, or it installs one and
is not refused. -/
def decides (operation : Operation) (tracker : Tracker) : Bool :=
  match operation with
  | .installKey key epoch => (tracker.installKey key epoch).1
  | .clearKey => true
  | .linkLost => true
  | .cancel => true
  | _ => false

/-- An operation that does not decide about the key leaves it alone, counts no loss and tears
nothing down. -/
theorem apply_undecided {operation : Operation} {shared : Shared}
    (undecided : operation.decides shared.tracker = false) :
    (operation.apply shared).tracker.key = shared.tracker.key ∧
      (operation.apply shared).tracker.epoch = shared.tracker.epoch ∧
      (operation.apply shared).tracker.cancelled = shared.tracker.cancelled ∧
      operation ≠ .linkLost ∧ operation ≠ .cancel := by
  cases operation with
  | complete number report =>
    unfold apply
    dsimp only
    split
    · exact ⟨rfl, rfl, rfl, nofun, nofun⟩
    · unfold Tracker.complete
      split <;> exact ⟨rfl, rfl, rfl, nofun, nofun⟩
  | installKey key epoch =>
    have refused : shared.tracker.cancelled = true ∨ shared.tracker.epoch ≠ epoch := by
      by_contra accepted
      simp [decides, Tracker.installKey, accepted] at undecided
    simp [apply, Tracker.installKey, refused]
  | reset => exact ⟨rfl, rfl, rfl, nofun, nofun⟩
  | setPhase phase => exact ⟨rfl, rfl, rfl, nofun, nofun⟩
  | queue => exact ⟨rfl, rfl, rfl, nofun, nofun⟩
  | takeResponse => exact ⟨rfl, rfl, rfl, nofun, nofun⟩
  | takeError => exact ⟨rfl, rfl, rfl, nofun, nofun⟩
  | clearKey => cases undecided
  | linkLost => cases undecided
  | cancel => cases undecided

end Operation

namespace Shared

/-- What is shared after operations, first one first. -/
def after (shared : Shared) (operations : List Operation) : Shared :=
  operations.foldl (fun current operation => operation.apply current) shared

/-- The operations that decided about the slot of the key, first one first. -/
def decisive (shared : Shared) : List Operation → List Operation
  | [] => []
  | operation :: operations =>
    (if operation.decides shared.tracker then [operation] else [])
      ++ (operation.apply shared).decisive operations

/-- One more operation. -/
theorem after_concat (shared : Shared) (operations : List Operation) (operation : Operation) :
    shared.after (operations ++ [operation]) = operation.apply (shared.after operations) := by
  simp [after]

/-- One more operation, which may or may not decide. -/
theorem decisive_concat (shared : Shared) (operations : List Operation) (operation : Operation) :
    shared.decisive (operations ++ [operation]) = shared.decisive operations ++
      if operation.decides (shared.after operations).tracker then [operation] else [] := by
  induction operations generalizing shared with
  | nil => exact List.append_nil _
  | cons first operations inductionHypothesis =>
    simp only [List.cons_append, decisive, inductionHypothesis, List.append_assoc]
    rfl

end Shared

/-- What a tracker shows of its history. Every loss of the link was counted. A tracker remembers
that it was torn down, and then it has no key. A key is there exactly if its installation was the
latest decision, on this very link. -/
structure Accounted (operations : List Operation) (tracker : Tracker) : Prop where
  losses : tracker.epoch = operations.count .linkLost
  torn : tracker.cancelled = true ↔ .cancel ∈ operations
  sealed : tracker.cancelled = true → tracker.key = none
  key : ∀ key, tracker.key = some key ↔
    (Shared.decisive {} operations).getLast? = some (.installKey key tracker.epoch)

namespace Accounted

variable {operations : List Operation} {operation : Operation}

/-- An operation that does not decide leaves the account as it was. -/
theorem undecided (accounted : Accounted operations (Shared.after {} operations).tracker)
    (undecided : operation.decides (Shared.after {} operations).tracker = false) :
    Accounted (operations ++ [operation])
      (Shared.after {} (operations ++ [operation])).tracker := by
  obtain ⟨key, epoch, cancelled, unlost, uncancelled⟩ := Operation.apply_undecided undecided
  rw [Shared.after_concat]
  refine ⟨?_, ?_, ?_, fun held => ?_⟩
  · rw [epoch, accounted.losses, List.count_append, List.count_singleton]
    simp [unlost]
  · rw [cancelled, accounted.torn]
    simp [uncancelled.symm]
  · rw [cancelled, key]
    exact accounted.sealed
  · rw [key, epoch, accounted.key, Shared.decisive_concat, undecided]
    simp

/-- An operation that drops the key is the latest decision and installs nothing. -/
theorem dropped (accounted : Accounted operations (Shared.after {} operations).tracker)
    (drops : operation = .clearKey ∨ operation = .linkLost ∨ operation = .cancel) :
    Accounted (operations ++ [operation])
      (Shared.after {} (operations ++ [operation])).tracker := by
  have decided (held : SessionKey) (epoch : Nat) :
      (Shared.decisive {} (operations ++ [operation])).getLast? ≠
        some (.installKey held epoch) := by
    rw [Shared.decisive_concat]
    rcases drops with rfl | rfl | rfl <;> simp [Operation.decides]
  have empty : (Shared.after {} (operations ++ [operation])).tracker.key = none := by
    rw [Shared.after_concat]
    rcases drops with rfl | rfl | rfl
    · rfl
    · simp only [Operation.apply, Tracker.linkLost]
      split <;> rfl
    · rfl
  refine ⟨?_, ?_, fun _ => empty, fun held => ?_⟩
  · rw [Shared.after_concat, List.count_append, ← accounted.losses]
    rcases drops with rfl | rfl | rfl
    · rfl
    · simp only [Operation.apply, Tracker.linkLost]
      split <;> rfl
    · rfl
  · rw [Shared.after_concat, List.mem_append, ← accounted.torn]
    rcases drops with rfl | rfl | rfl
    · simp [Operation.apply, Tracker.clearKey]
    · simp only [Operation.apply, Tracker.linkLost]
      split <;> simp
    · simp [Operation.apply, Tracker.cancel]
  · rw [empty]
    exact ⟨nofun, fun last => absurd last (decided held _)⟩

/-- An installation that is not refused is the latest decision. -/
theorem installed (accounted : Accounted operations (Shared.after {} operations).tracker)
    {key : SessionKey} {epoch : Nat}
    (accepted : ((Shared.after {} operations).tracker.installKey key epoch).1 = true) :
    Accounted (operations ++ [.installKey key epoch])
      (Shared.after {} (operations ++ [.installKey key epoch])).tracker := by
  have allowed : ¬((Shared.after {} operations).tracker.cancelled = true ∨
      (Shared.after {} operations).tracker.epoch ≠ epoch) := by
    intro refused
    simp [Tracker.installKey, refused] at accepted
  have changed : (Shared.after {} (operations ++ [.installKey key epoch])).tracker =
      { (Shared.after {} operations).tracker with key := some key } := by
    simp only [Shared.after_concat, Operation.apply, Tracker.installKey, allowed, if_false]
  have same : (Shared.after {} operations).tracker.epoch = epoch := by
    by_contra different
    exact allowed (.inr different)
  rw [changed]
  refine ⟨?_, ?_, fun torn => absurd (.inl torn) allowed, fun held => ?_⟩
  · simp [accounted.losses]
  · simp [accounted.torn]
  · rw [Shared.decisive_concat]
    simp [Operation.decides, accepted, same]

/-- Every history is accounted for. -/
theorem all (operations : List Operation) :
    Accounted operations (Shared.after {} operations).tracker := by
  induction operations using List.reverseRecOn with
  | nil => exact ⟨rfl, by simp [Shared.after], fun _ => rfl, fun _ => ⟨nofun, nofun⟩⟩
  | append_singleton operations operation inductionHypothesis =>
    cases decision : operation.decides (Shared.after {} operations).tracker with
    | false => exact inductionHypothesis.undecided decision
    | true =>
      cases operation with
      | installKey key epoch => exact inductionHypothesis.installed decision
      | clearKey => exact inductionHypothesis.dropped (.inl rfl)
      | linkLost => exact inductionHypothesis.dropped (.inr (.inl rfl))
      | cancel => exact inductionHypothesis.dropped (.inr (.inr rfl))
      | _ => cases decision

end Accounted

/-- The slot of the key is safe in every history of a tracker. An installation is accepted exactly
if the tracker was never torn down and the key was derived after the last loss of the link; a key is
in the slot exactly if its installation was the latest decision about the slot, made on the link as
it is now; and once the tracker was torn down the slot is empty for good. -/
theorem key_slot_safe (operations : List Operation) :
    let tracker := (Shared.after {} operations).tracker
    (∀ key epoch, (tracker.installKey key epoch).1 = true ↔
        .cancel ∉ operations ∧ epoch = operations.count .linkLost) ∧
      (∀ key, tracker.key = some key ↔
        (Shared.decisive {} operations).getLast? =
          some (.installKey key (operations.count .linkLost))) ∧
      (∀ later, .cancel ∈ operations →
        (Shared.after {} (operations ++ later)).tracker.key = none) := by
  intro tracker
  have accounted : Accounted operations tracker := .all operations
  refine ⟨fun key epoch => ?_, fun key => ?_, fun later torn => ?_⟩
  · rw [← accounted.losses, ← accounted.torn]
    by_cases refused : tracker.cancelled = true ∨ tracker.epoch ≠ epoch
    · simp only [Tracker.installKey, refused, if_true]
      grind
    · simp only [Tracker.installKey, refused, if_false]
      grind
  · rw [← accounted.losses]
    exact accounted.key key
  · have whole := Accounted.all (operations ++ later)
    exact whole.sealed (whole.torn.mpr (List.mem_append_left later torn))

end MeshLight.Link
