import MeshLight.Proofs.Link.History
import MeshLight.Proofs.Link.Stray

/-!
# Where responses and errors come from

The bytes and the error in a tracker belong to the cycle under way. Nothing in them says so; it
follows from the history. A completion is numbered with the cycle it was handed out in, the cycles
are the resets counted, and a reset empties both slots. So whatever is in a slot was put there since
the latest reset, by a report through a completion handed out since then, or for errors by a loss of
the link.

Each slot has operations that decide about it. What is in it is what the latest of them left behind,
and the operation was then one that leaves something behind.
-/

namespace MeshLight.Link

namespace Operation

/-- Whether an operation is a report that is applied. -/
def lands (operation : Operation) (shared : Shared) : Bool :=
  match operation with
  | .complete number report =>
    shared.handed[number]?.any fun completion => (shared.tracker.complete completion report).1
  | _ => false

/-- Whether an operation is a loss of the link that strikes an operation handed over. -/
def strikes (operation : Operation) (shared : Shared) : Bool :=
  operation = .linkLost ∧ shared.tracker.phase = .queued

/-- Whether an operation decides about the bytes of the last read. -/
def decidesResponse (operation : Operation) (shared : Shared) : Bool :=
  operation ∈ [.reset, .takeResponse, .cancel] || operation.lands shared

/-- Whether an operation decides about the error of the last failure. -/
def decidesError (operation : Operation) (shared : Shared) : Bool :=
  operation ∈ [.reset, .takeError] || operation.strikes shared || operation.lands shared

section Apply

variable (operation : Operation) (shared : Shared)

/-- A reset is what counts a cycle. -/
theorem apply_cycle : (operation.apply shared).tracker.cycle =
    shared.tracker.cycle + [operation].count .reset := by
  cases operation with
  | complete number report =>
    unfold apply
    dsimp only
    split
    · rfl
    · exact (Tracker.complete_frame _ _ report).2.1
  | installKey key epoch =>
    simp only [apply, Tracker.installKey]
    split <;> rfl
  | linkLost =>
    simp only [apply, Tracker.linkLost]
    split <;> rfl
  | _ => rfl

/-- Only a queued operation is handed out a completion, one of the cycle under way. -/
theorem apply_handed : (operation.apply shared).handed =
    shared.handed ++ if operation = .queue then [⟨shared.tracker.cycle⟩] else [] := by
  cases operation with
  | complete number report =>
    unfold apply
    dsimp only
    split <;> exact (List.append_nil _).symm
  | queue => rfl
  | _ => exact (List.append_nil _).symm

end Apply

variable {operation : Operation} {shared : Shared}

/-- A report that is applied belongs to the cycle under way and leaves its own bytes and error. -/
theorem apply_landed {number : Nat} {report : Report}
    (lands : (complete number report).lands shared = true) :
    ∃ completion, shared.handed[number]? = some completion ∧
      shared.tracker.cycle = completion.cycle ∧
      ((complete number report).apply shared).tracker.response = report.response ∧
      ((complete number report).apply shared).tracker.error = report.error := by
  obtain ⟨completion, handed, taken⟩ : ∃ completion, shared.handed[number]? = some completion ∧
      (shared.tracker.complete completion report).1 = true := by
    simpa [Operation.lands, Option.any_eq_true] using lands
  refine ⟨completion, handed, ?_⟩
  simp only [apply, handed]
  unfold Tracker.complete at taken ⊢
  split at taken
  · rename_i fits
    simp only [if_pos fits]
    exact ⟨fits.1, trivial, trivial⟩
  · cases taken

/-- A report that is not applied changes nothing. -/
theorem apply_unlanded {number : Nat} {report : Report}
    (misses : (complete number report).lands shared = false) :
    (complete number report).apply shared = shared := by
  unfold apply
  dsimp only
  split
  · rfl
  · rename_i completion handed
    have refused : (shared.tracker.complete completion report).1 = false := by
      simpa [lands, handed] using misses
    unfold Tracker.complete at refused ⊢
    split at refused
    · cases refused
    · rename_i unfit
      rw [if_neg unfit]

/-- An operation that does not decide about the bytes leaves them alone. -/
theorem apply_response (undecided : operation.decidesResponse shared = false) :
    (operation.apply shared).tracker.response = shared.tracker.response := by
  cases operation with
  | complete number report =>
    have misses : (complete number report).lands shared = false := by
      simpa [decidesResponse] using undecided
    rw [apply_unlanded misses]
  | installKey key epoch =>
    simp only [apply, Tracker.installKey]
    split <;> rfl
  | linkLost =>
    simp only [apply, Tracker.linkLost]
    split <;> rfl
  | reset => simp [decidesResponse] at undecided
  | takeResponse => simp [decidesResponse] at undecided
  | cancel => simp [decidesResponse] at undecided
  | _ => rfl

/-- Of the operations that decide about the bytes only a read that is applied leaves any behind. -/
theorem response_left {bytes : Bytes} :
    (operation.decidesResponse shared = true ∧
        (operation.apply shared).tracker.response = some bytes) ↔
      ∃ number, operation = .complete number (.delivered bytes) ∧
        operation.lands shared = true := by
  constructor
  · rintro ⟨decided, left⟩
    cases operation with
    | complete number report =>
      have lands : (complete number report).lands shared = true := by
        simpa [decidesResponse] using decided
      obtain ⟨-, -, -, response, -⟩ := apply_landed lands
      rw [left] at response
      cases report with
      | delivered bytes =>
        cases response
        exact ⟨number, rfl, lands⟩
      | _ => cases response
    | reset => cases left
    | takeResponse => cases left
    | cancel => cases left
    | _ => simp [decidesResponse, lands] at decided
  · rintro ⟨number, rfl, lands⟩
    obtain ⟨-, -, -, response, -⟩ := apply_landed lands
    exact ⟨by simp [decidesResponse, lands], response⟩

/-- An operation that does not decide about the error leaves it alone. -/
theorem apply_error (undecided : operation.decidesError shared = false) :
    (operation.apply shared).tracker.error = shared.tracker.error := by
  cases operation with
  | complete number report =>
    have misses : (complete number report).lands shared = false := by
      simpa [decidesError, strikes] using undecided
    rw [apply_unlanded misses]
  | installKey key epoch =>
    simp only [apply, Tracker.installKey]
    split <;> rfl
  | linkLost =>
    have unqueued : shared.tracker.phase ≠ .queued := by
      simpa [decidesError, strikes, lands] using undecided
    simp only [apply, Tracker.linkLost, if_neg unqueued]
  | reset => simp [decidesError] at undecided
  | takeError => simp [decidesError] at undecided
  | _ => rfl

/-- Of the operations that decide about the error a failure that is applied leaves its reason
behind, and a loss of the link that strikes leaves its own. -/
theorem error_left {reason : String} :
    (operation.decidesError shared = true ∧
        (operation.apply shared).tracker.error = some reason) ↔
      (∃ number report, operation = .complete number report ∧ report.error = some reason ∧
          (complete number report).lands shared = true) ∨
        operation = .linkLost ∧ shared.tracker.phase = .queued ∧ reason = "link lost" := by
  constructor
  · rintro ⟨decided, left⟩
    cases operation with
    | complete number report =>
      have lands : (complete number report).lands shared = true := by
        simpa [decidesError, strikes] using decided
      obtain ⟨-, -, -, -, error⟩ := apply_landed lands
      exact .inl ⟨number, report, rfl, error.symm.trans left, lands⟩
    | linkLost =>
      have queued : shared.tracker.phase = .queued := by
        simpa [decidesError, strikes, lands] using decided
      have lost : some "link lost" = some reason := by
        simpa only [apply, Tracker.linkLost, if_pos queued] using left
      exact .inr ⟨rfl, queued, (Option.some.inj lost).symm⟩
    | reset => cases left
    | takeError => cases left
    | _ => simp [decidesError, strikes, lands] at decided
  · rintro (⟨number, report, rfl, fails, lands⟩ | ⟨rfl, queued, rfl⟩)
    · obtain ⟨-, -, -, -, error⟩ := apply_landed lands
      exact ⟨by simp [decidesError, lands], error.trans fails⟩
    · exact ⟨by simp [decidesError, strikes, queued],
        by simp only [apply, Tracker.linkLost, if_pos queued]⟩

end Operation

/-! ## Cycles and completions -/

namespace Shared

/-- What is shared after an operation and the ones behind it. -/
theorem after_split (shared : Shared) (earlier : List Operation) (operation : Operation)
    (later : List Operation) :
    shared.after (earlier ++ operation :: later) =
      (operation.apply (shared.after earlier)).after later :=
  List.foldl_append

/-- The cycles are the resets counted. -/
theorem after_cycle (operations : List Operation) :
    (Shared.after {} operations).tracker.cycle = operations.count .reset := by
  induction operations using List.reverseRecOn with
  | nil => rfl
  | append_singleton operations operation inductionHypothesis =>
    rw [after_concat, Operation.apply_cycle, inductionHypothesis, List.count_append]

/-- As many completions were handed out as operations were queued. -/
theorem after_handed_length (operations : List Operation) :
    (Shared.after {} operations).handed.length = operations.count .queue := by
  induction operations using List.reverseRecOn with
  | nil => rfl
  | append_singleton operations operation inductionHypothesis =>
    rw [after_concat, Operation.apply_handed, List.length_append, inductionHypothesis,
      List.count_append, List.count_singleton]
    by_cases queued : operation = .queue <;> simp [queued]

/-- A completion was handed out at a place in the history, and belongs to the cycle of that
place. -/
theorem handed_out {operations : List Operation} {number : Nat} {completion : Completion}
    (handed : (Shared.after {} operations).handed[number]? = some completion) :
    ∃ opened waited, operations = opened ++ .queue :: waited ∧ opened.count .queue = number ∧
      completion.cycle = opened.count .reset := by
  induction operations using List.reverseRecOn with
  | nil => cases handed
  | append_singleton operations operation inductionHypothesis =>
    rw [after_concat, Operation.apply_handed] at handed
    by_cases early : number < (Shared.after {} operations).handed.length
    · rw [List.getElem?_append_left early] at handed
      obtain ⟨opened, waited, rfl, isNumber, isCycle⟩ := inductionHypothesis handed
      exact ⟨opened, waited ++ [operation], by simp, isNumber, isCycle⟩
    · have late : (Shared.after {} operations).handed.length ≤ number := Nat.le_of_not_lt early
      rw [List.getElem?_append_right late] at handed
      split at handed
      · rename_i queued
        obtain ⟨first, isCompletion⟩ := List.getElem?_eq_some_iff.mp handed
        rw [List.length_singleton] at first
        refine ⟨operations, [], by rw [queued], ?_, ?_⟩
        · rw [← after_handed_length]
          omega
        · rw [← isCompletion, List.getElem_singleton, after_cycle]
      · cases handed

/-- A completion handed out before a reset is retired for good. -/
theorem retired_at_reset {earlier later : List Operation} {number : Nat} {completion : Completion}
    (handed : (Shared.after {} earlier).handed[number]? = some completion) :
    completion.cycle < (Shared.after {} (earlier ++ .reset :: later)).tracker.cycle := by
  obtain ⟨opened, waited, rfl, -, isCycle⟩ := handed_out handed
  rw [after_cycle, isCycle]
  simp only [List.count_append, List.count_cons_self]
  omega

end Shared

/-! ## Slots -/

/-- None of some operations is of a kind when its turn comes. -/
def Shared.Without (kind : Operation → Shared → Bool) (shared : Shared) : List Operation → Prop
  | [] => True
  | operation :: operations =>
    kind operation shared = false ∧ (operation.apply shared).Without kind operations

namespace Shared.Without

variable {first second : Operation → Shared → Bool} {shared : Shared} {operations : List Operation}

/-- One more operation. -/
theorem concat_iff {operation : Operation} :
    shared.Without first (operations ++ [operation]) ↔
      shared.Without first operations ∧ first operation (shared.after operations) = false := by
  induction operations generalizing shared with
  | nil => exact and_comm
  | cons next operations inductionHypothesis =>
    simp only [List.cons_append, Without, inductionHypothesis, and_assoc]
    rfl

/-- None is of either kind if none is of the one and none of the other. -/
theorem or_iff : shared.Without (fun operation found => first operation found ||
      second operation found) operations ↔
    shared.Without first operations ∧ shared.Without second operations := by
  induction operations generalizing shared with
  | nil => simp [Without]
  | cons next operations inductionHypothesis =>
    simp only [Without, inductionHypothesis, Bool.or_eq_false_iff]
    constructor
    · rintro ⟨⟨notFirst, notSecond⟩, firstLater, secondLater⟩
      exact ⟨⟨notFirst, firstLater⟩, notSecond, secondLater⟩
    · rintro ⟨⟨notFirst, firstLater⟩, notSecond, secondLater⟩
      exact ⟨⟨notFirst, notSecond⟩, firstLater, secondLater⟩

/-- None is among some that are listed if none of these is there. -/
theorem listed_iff {listed : List Operation} :
    shared.Without (fun operation _ => operation ∈ listed) operations ↔
      ∀ operation ∈ listed, operation ∉ operations := by
  induction operations generalizing shared with
  | nil => simp [Without]
  | cons next operations inductionHypothesis =>
    simp only [Without, inductionHypothesis, decide_eq_false_iff_not, List.mem_cons, not_or]
    constructor
    · rintro ⟨unlisted, later⟩ operation among
      exact ⟨fun same => unlisted (same ▸ among), later operation among⟩
    · intro unmet
      exact ⟨fun among => (unmet next among).1 rfl,
        fun operation among => (unmet operation among).2⟩

/-- None decides about the bytes if none empties their slot and none is applied. -/
theorem decidesResponse_iff : shared.Without Operation.decidesResponse operations ↔
    .reset ∉ operations ∧ .takeResponse ∉ operations ∧ .cancel ∉ operations ∧
      shared.Without Operation.lands operations := by
  have split : shared.Without Operation.decidesResponse operations ↔ _ := or_iff
  simp only [split, listed_iff, List.forall_mem_cons, List.not_mem_nil, false_imp_iff,
    implies_true, and_true, and_assoc]

/-- None decides about the error if none empties its slot, none strikes and none is applied. -/
theorem decidesError_iff : shared.Without Operation.decidesError operations ↔
    .reset ∉ operations ∧ .takeError ∉ operations ∧
      shared.Without Operation.strikes operations ∧
      shared.Without Operation.lands operations := by
  have split : shared.Without Operation.decidesError operations ↔ _ := or_iff
  simp only [split, or_iff, listed_iff, List.forall_mem_cons, List.not_mem_nil, false_imp_iff,
    implies_true, and_true, and_assoc]

end Shared.Without

/-- A place in the tracker for something that may be there, and the operations that decide about it.
All others leave it alone. -/
structure Slot (Content : Type) where
  content : Tracker → Option Content
  decides : Operation → Shared → Bool
  kept : ∀ {operation shared}, decides operation shared = false →
    content (operation.apply shared).tracker = content shared.tracker

namespace Slot

variable {Content : Type} (slot : Slot Content)

/-- Operations that do not decide about a slot leave it alone. -/
theorem content_without {shared : Shared} {operations : List Operation}
    (undecided : shared.Without slot.decides operations) :
    slot.content (shared.after operations).tracker = slot.content shared.tracker := by
  induction operations generalizing shared with
  | nil => rfl
  | cons operation operations inductionHypothesis =>
    exact (inductionHypothesis undecided.2).trans (slot.kept undecided.1)

/-- What is in a slot that was empty at first is what the latest operation that decided about it
left there. -/
theorem content_iff (vacant : slot.content {} = none) {operations : List Operation}
    {content : Content} :
    slot.content (Shared.after {} operations).tracker = some content ↔
      ∃ earlier operation later, operations = earlier ++ operation :: later ∧
        slot.decides operation (Shared.after {} earlier) = true ∧
        slot.content (operation.apply (Shared.after {} earlier)).tracker = some content ∧
        (operation.apply (Shared.after {} earlier)).Without slot.decides later := by
  constructor
  · intro present
    induction operations using List.reverseRecOn with
    | nil => cases vacant.symm.trans present
    | append_singleton operations operation inductionHypothesis =>
      rw [Shared.after_concat] at present
      cases decided : slot.decides operation (Shared.after {} operations) with
      | true => exact ⟨operations, operation, [], rfl, decided, present, trivial⟩
      | false =>
        rw [slot.kept decided] at present
        obtain ⟨earlier, decisive, later, rfl, isDecisive, left, undecided⟩ :=
          inductionHypothesis present
        refine ⟨earlier, decisive, later ++ [operation], by simp, isDecisive, left, ?_⟩
        rw [Shared.after_split] at decided
        exact Shared.Without.concat_iff.mpr ⟨undecided, decided⟩
  · rintro ⟨earlier, decisive, later, rfl, -, left, undecided⟩
    rw [Shared.after_split, slot.content_without undecided, left]

end Slot

/-- The bytes of the last read. -/
def responseSlot : Slot Bytes where
  content := Tracker.response
  decides := Operation.decidesResponse
  kept := Operation.apply_response

/-- The error of the last failure. -/
def errorSlot : Slot String where
  content := Tracker.error
  decides := Operation.decidesError
  kept := Operation.apply_error

/-- A report is applied behind some operations, and the completion it came through was handed out in
the cycle that they end in: no reset lies between. -/
def Landed (earlier : List Operation) (number : Nat) (report : Report) : Prop :=
  (Operation.complete number report).lands (Shared.after {} earlier) = true ∧
    ∃ opened waited, earlier = opened ++ .queue :: waited ∧ opened.count .queue = number ∧
      .reset ∉ waited

/-- Whatever is applied came through a completion of the cycle under way. -/
theorem landed_iff {earlier : List Operation} {number : Nat} {report : Report} :
    Landed earlier number report ↔
      (Operation.complete number report).lands (Shared.after {} earlier) = true := by
  constructor
  · exact And.left
  · intro lands
    refine ⟨lands, ?_⟩
    obtain ⟨completion, handed, same, -⟩ := Operation.apply_landed lands
    obtain ⟨opened, waited, rfl, isNumber, isCycle⟩ := Shared.handed_out handed
    refine ⟨opened, waited, rfl, isNumber, ?_⟩
    rw [Shared.after_cycle, isCycle] at same
    have none : waited.count .reset = 0 := by
      simp only [List.count_append, List.count_cons] at same
      simpa using same
    exact List.count_eq_zero.mp none

/-- What is in the slots of a tracker can be traced back to its own cycle, in every history.

A completion handed out before a reset is refused after it, and nothing changes. The bytes that are
taken are those of a read that was applied, through a completion handed out since the latest reset,
and since then nothing was applied, taken or torn down. The error that is taken is that of a failure
applied in the same way, or it says that the link was lost while an operation was queued; this too
was since the latest reset, and nothing else has decided about the error since then. -/
theorem outcomes_traced (operations : List Operation) :
    let tracker := (Shared.after {} operations).tracker
    (∀ earlier later completion report (number : Nat),
      operations = earlier ++ .reset :: later →
      (Shared.after {} earlier).handed[number]? = some completion →
        tracker.complete completion report = (false, tracker)) ∧
      (∀ bytes, tracker.takeResponse.1 = some bytes ↔
        ∃ earlier number later,
          operations = earlier ++ .complete number (.delivered bytes) :: later ∧
          Landed earlier number (.delivered bytes) ∧
          .reset ∉ later ∧ .takeResponse ∉ later ∧ .cancel ∉ later ∧
          (Shared.after {} (earlier ++ [.complete number (.delivered bytes)])).Without
            Operation.lands later) ∧
      ∀ reason, tracker.takeError.1 = some reason ↔
        ∃ earlier operation later, operations = earlier ++ operation :: later ∧
          ((∃ number report, operation = .complete number report ∧
              report.error = some reason ∧ Landed earlier number report) ∨
            operation = .linkLost ∧ (Shared.after {} earlier).tracker.phase = .queued ∧
              reason = "link lost") ∧
          .reset ∉ later ∧ .takeError ∉ later ∧
          (Shared.after {} (earlier ++ [operation])).Without Operation.strikes later ∧
          (Shared.after {} (earlier ++ [operation])).Without Operation.lands later := by
  refine ⟨?_, ?_, ?_⟩
  · rintro earlier later completion report number rfl handed
    exact Tracker.complete_retired (Shared.retired_at_reset handed) report
  · intro bytes
    refine (responseSlot.content_iff rfl).trans ?_
    constructor
    · rintro ⟨earlier, operation, later, rfl, decided, left, undecided⟩
      obtain ⟨number, rfl, lands⟩ := Operation.response_left.mp ⟨decided, left⟩
      rw [← Shared.after_concat] at undecided
      exact ⟨earlier, number, later, rfl, landed_iff.mpr lands,
        Shared.Without.decidesResponse_iff.mp undecided⟩
    · rintro ⟨earlier, number, later, rfl, landed, untouched⟩
      obtain ⟨decided, left⟩ := Operation.response_left.mpr ⟨number, rfl, landed_iff.mp landed⟩
      rw [Shared.after_concat, ← Shared.Without.decidesResponse_iff] at untouched
      exact ⟨earlier, _, later, rfl, decided, left, untouched⟩
  · intro reason
    refine (errorSlot.content_iff rfl).trans ?_
    constructor
    · rintro ⟨earlier, operation, later, rfl, decided, left, undecided⟩
      have cause := Operation.error_left.mp ⟨decided, left⟩
      simp only [← landed_iff] at cause
      rw [← Shared.after_concat] at undecided
      exact ⟨earlier, operation, later, rfl, cause, Shared.Without.decidesError_iff.mp undecided⟩
    · rintro ⟨earlier, operation, later, rfl, cause, untouched⟩
      simp only [landed_iff] at cause
      obtain ⟨decided, left⟩ := Operation.error_left.mpr cause
      rw [Shared.after_concat, ← Shared.Without.decidesError_iff] at untouched
      exact ⟨earlier, operation, later, rfl, decided, left, untouched⟩

end MeshLight.Link
