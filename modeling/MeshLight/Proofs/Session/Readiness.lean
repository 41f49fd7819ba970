import MeshLight.Proofs.Session.Schedule

/-!
# No ready link is forgotten

A ready link puts a message into the queue of the worker unless such a message is on its way, which
a mark remembers. The mark is set by whoever reports the link and taken back by the worker, for a
pairing that a caller asked for as well as for a ready link, and before the worker asks for the key.

While the mark is set, a message that the worker has not begun stands in the queue. So no report is
lost: a worker that is given the chance comes to the message, and asks for the key after the report.
Nor is one heard twice: the mark is set once between two messages that take it back.
-/

namespace MeshLight.Session

open Link (ConnectionEvent Transport)

/-- The message takes the mark of a ready link back. -/
def Message.answersReady : Message → Bool
  | .ready => true
  | .request _ .pair => true
  | _ => false

/-- What a message for a ready link leads to, by the key that it found. -/
def Controller.answerReady (controller : Controller) :
    Option SessionKey → Procedure (Result × Controller)
  | some _ => pure (.ok .done, controller)
  | none => controller.pair >>= fun ended => pure (ended.1.map fun _ => .done, ended.2)

/-- A message for a ready link asks for the key first. -/
theorem Controller.greet_eq (controller : Controller) :
    controller.greet = .act .sessionKey controller.answerReady := by
  refine congrArg (Procedure.act .sessionKey) (funext fun held => ?_)
  cases held with
  | some key => rfl
  | none => rfl

namespace Worker

variable {State : Type} {transport : Transport State} {worker : Worker State}

/-! ## The mark -/

/-- A worker that has not ended and is marked has a message for a ready link in its queue. -/
def Mindful (worker : Worker State) : Prop :=
  worker.activity ≠ .stopped → worker.pairQueued = true → .ready ∈ worker.queue

/-- The occurrence puts a message for a ready link into the queue. -/
def Asks (transport : Transport State) (worker : Worker State) (occurrence : Occurrence) : Prop :=
  (worker.occur transport occurrence).queue = worker.queue ++ [.ready]

/-- The worker takes a message from the queue that takes the mark back. -/
def Takes (worker : Worker State) (occurrence : Occurrence) : Prop :=
  occurrence = .step ∧ worker.activity = .idle ∧
    ∃ message queue, worker.queue = message :: queue ∧ message.answersReady = true

/-- What an occurrence does to mark and queue. If the worker has not ended, messages that ask for no
pairing may be put into the queue, a ready link that is reported without a mark sets it and puts its
message behind all others, or the worker begins the first message, which clears the mark if it
answers a ready link. -/
inductive Marks (worker : Worker State) (occurrence : Occurrence) (later : Worker State) :
    Prop where
  | ended (stopped : later.activity = .stopped)
    (queue : later.queue = [] ∨ later.queue = worker.queue)
  | left (alive : worker.activity ≠ .stopped) (more : List Message) (other : .ready ∉ more)
    (grown : later.queue = worker.queue ++ more) (same : later.pairQueued = worker.pairQueued)
  | asked (alive : worker.activity ≠ .stopped) (event : ConnectionEvent)
    (noticed : occurrence = .notice event) (ready : event.isReady = true)
    (unmarked : worker.pairQueued = false) (marked : later.pairQueued = true)
    (grown : later.queue = worker.queue ++ [.ready])
  | took (message : Message) (stepped : occurrence = .step) (idle : worker.activity = .idle)
    (taken : worker.queue = message :: later.queue)
    (mark : later.pairQueued = (worker.pairQueued && !message.answersReady))

/-- Beginning a message stops the worker, or takes the mark back if that is for the message. -/
theorem begin_mark (message : Message) (worker : Worker State) :
    (worker.begin message = worker.stop) ∨
      (worker.begin message).queue = worker.queue ∧
        (worker.begin message).pairQueued = (worker.pairQueued && !message.answersReady) := by
  unfold Worker.begin
  split
  · exact .inl rfl
  · cases message with
    | request ticket content => cases content <;> simp [Message.answersReady]
    | ready => simp [Message.answersReady]
    | shutdown => exact .inl rfl

/-- Nothing happened to mark and queue. -/
theorem Marks.still {occurrence : Occurrence} {later : Worker State}
    (alive : worker.activity ≠ .stopped) (queue : later.queue = worker.queue)
    (mark : later.pairQueued = worker.pairQueued) : Marks worker occurrence later :=
  .left alive [] List.not_mem_nil (queue.trans (List.append_nil _).symm) mark

/-- A step of the worker. -/
theorem step_marks (alive : worker.activity ≠ .stopped) {later : Worker State}
    (does : Does transport worker later) : Marks worker .step later := by
  cases does with
  | begin message queue idle queued =>
    rcases begin_mark message ({ worker with queue } : Worker State) with stopped | ⟨kept, mark⟩
    · rw [stopped]
      exact .ended rfl (.inl rfl)
    · exact .took message rfl idle (by rw [kept, queued]) mark
  | conclude => exact .still alive rfl rfl
  | act => exact .still alive rfl rfl
  | decide => exact .still alive rfl rfl

/-- After the report of a ready link the mark is set. -/
theorem notice_ready {event : ConnectionEvent} (ready : event.isReady = true) :
    (worker.notice event).pairQueued = true := by
  unfold notice
  split
  · cases ready
  · split
    · unfold enqueue
      split <;> rfl
    · rename_i unasked
      simpa [ready] using unasked

/-- Whatever happens does one of these to mark and queue. -/
theorem occur_marks (transport : Transport State) (worker : Worker State)
    (occurrence : Occurrence) : Marks worker occurrence (worker.occur transport occurrence) := by
  generalize happened : worker.occur transport occurrence = later
  by_cases stopped : worker.activity = .stopped
  · have ended := course_stopped transport stopped [occurrence]
    refine .ended (happened ▸ ended) (.inr ?_)
    cases occurs happened with
    | stepped stepped => simp [step?, stopped] at stepped
    | expired _ _ _ busy => simp [stopped] at busy
    | submitted | asked | shut => simp [enqueue, stopped]
    | _ => rfl
  cases occurs happened with
  | stepped _ does => exact step_marks stopped does
  | submitted request =>
    have numbered :
        ({ worker with nextTicket := worker.nextTicket + 1 } : Worker State).activity ≠ .stopped :=
      stopped
    rw [enqueue_alive numbered]
    exact .left stopped [.request worker.nextTicket request] (by simp) rfl rfl
  | asked event ready unmarked =>
    have marked : ({ worker with pairQueued := true } : Worker State).activity ≠ .stopped := stopped
    rw [enqueue_alive marked]
    exact .asked stopped event rfl ready unmarked rfl rfl
  | shut =>
    have torn : ({ worker with world := worker.world.withTracker worker.tracker.cancel } :
        Worker State).activity ≠ .stopped := stopped
    rw [enqueue_alive torn]
    exact .left stopped [.shutdown] (by simp) rfl rfl
  | _ => exact .still stopped rfl rfl

/-- Whatever happens, a worker stays mindful. -/
theorem Mindful.occur (mindful : worker.Mindful) (transport : Transport State)
    (occurrence : Occurrence) : (worker.occur transport occurrence).Mindful := by
  intro alive marked
  cases occur_marks transport worker occurrence with
  | ended stopped _ => exact absurd stopped alive
  | left before more other grown same =>
    rw [grown]
    exact List.mem_append_left _ (mindful before (same ▸ marked))
  | asked _ event noticed ready unmarked _ grown =>
    rw [grown]
    exact List.mem_append_right _ (List.mem_singleton_self _)
  | took message stepped idle taken mark =>
    rw [mark, Bool.and_eq_true] at marked
    have before := mindful (by simp [idle]) marked.1
    rw [taken, List.mem_cons] at before
    rcases before with rfl | behind
    · simp [Message.answersReady] at marked
    · exact behind

section Endless

variable {course : Nat → Occurrence}

/-- A mindful worker stays so. -/
theorem Mindful.endless (mindful : worker.Mindful) (number : Nat) :
    (worker.endless transport course number).Mindful :=
  endless_keeps Mindful (fun still => still.occur transport) (Nat.zero_le number) mindful

/-- A worker that has ended does not begin anew. -/
theorem endless_stopped {number : Nat}
    (stopped : (worker.endless transport course number).activity = .stopped) (more : Nat) :
    (worker.endless transport course (number + more)).activity = .stopped :=
  endless_keeps (fun later => later.activity = .stopped)
    (fun stopped occurrence => course_stopped transport stopped [occurrence])
    (Nat.le_add_right number more) stopped

/-- A mark does not go but by a message that takes it back. -/
theorem mark_taken {number distance : Nat}
    (marked : (worker.endless transport course number).pairQueued = true)
    (alive : (worker.endless transport course (number + distance)).activity ≠ .stopped)
    (unmarked : (worker.endless transport course (number + distance)).pairQueued = false) :
    ∃ between, number ≤ between ∧ between < number + distance ∧
      (worker.endless transport course between).Takes (course between) := by
  induction distance generalizing number with
  | zero => exact absurd (marked.symm.trans unmarked) nofun
  | succ distance inductionHypothesis =>
    have shifted : number + 1 + distance = number + (distance + 1) := by omega
    have onwards (marked : (worker.endless transport course (number + 1)).pairQueued = true) :
        ∃ between, number ≤ between ∧ between < number + (distance + 1) ∧
          (worker.endless transport course between).Takes (course between) := by
      obtain ⟨between, after, before, takes⟩ :=
        inductionHypothesis marked (shifted ▸ alive) (shifted ▸ unmarked)
      exact ⟨between, by omega, by omega, takes⟩
    cases occur_marks transport (worker.endless transport course number) (course number) with
    | ended stopped _ =>
      have ended : (worker.endless transport course (number + 1)).activity = .stopped := stopped
      exact absurd (shifted ▸ endless_stopped ended distance) alive
    | left _ _ _ _ same => exact onwards (same.trans marked)
    | asked _ _ _ _ clear _ _ => exact absurd (marked.symm.trans clear) nofun
    | took message stepped idle taken mark =>
      cases answers : message.answersReady with
      | true =>
        exact ⟨number, Nat.le_refl _, by omega, stepped, idle, message, _, taken, answers⟩
      | false => exact onwards (by rw [endless, mark, marked, answers]; rfl)

/-- Only a report of a ready link without a mark puts a message for it into the queue. -/
theorem Asks.marks {occurrence : Occurrence} (asks : worker.Asks transport occurrence) :
    worker.activity ≠ .stopped ∧ worker.pairQueued = false ∧
      (worker.occur transport occurrence).pairQueued = true := by
  have grown : (worker.occur transport occurrence).queue = worker.queue ++ [.ready] := asks
  cases occur_marks transport worker occurrence with
  | ended _ queue =>
    rw [grown] at queue
    rcases queue with empty | same
    · simp at empty
    · simp at same
  | left _ more other more_grown _ =>
    obtain rfl := List.append_cancel_left (grown.symm.trans more_grown)
    simp at other
  | asked alive _ _ _ unmarked marked _ => exact ⟨alive, unmarked, marked⟩
  | took message _ _ taken _ =>
    rw [grown] at taken
    have length := congrArg List.length taken
    simp only [List.length_append, List.length_cons, List.length_nil] at length
    omega

/-- Between two messages for a ready link that are put into the queue, the worker takes one that
takes the mark back. -/
theorem takes_between {first second : Nat} (order : first < second)
    (one : (worker.endless transport course first).Asks transport (course first))
    (two : (worker.endless transport course second).Asks transport (course second)) :
    ∃ between, first < between ∧ between < second ∧
      (worker.endless transport course between).Takes (course between) := by
  obtain ⟨distance, rfl⟩ := Nat.exists_eq_add_of_le (Nat.succ_le_of_lt order)
  have marked : (worker.endless transport course (first + 1)).pairQueued = true := one.marks.2.2
  obtain ⟨alive, unmarked, -⟩ := two.marks
  obtain ⟨between, after, before, takes⟩ := mark_taken marked alive unmarked
  exact ⟨between, after, before, takes⟩

/-! ## The answer to a ready link -/

/-- The worker decides about a ready link: it asks for the key, and pairs if there is none. -/
def Decides (transport : Transport State) (worker : Worker State) (occurrence : Occurrence) :
    Prop :=
  worker.activity = .busy none worker.controller.greet 0 ∧ occurrence = .step ∧
    (worker.occur transport occurrence).activity =
      .busy none (worker.controller.answerReady worker.tracker.key) 0

/-- A worker without an operation that goes on stops, or takes the first message; it begins to
answer if that is for a ready link. -/
theorem idle_takes {message : Message} {queue : List Message} {occurrence : Occurrence}
    (idle : worker.activity = .idle) (queued : worker.queue = message :: queue)
    (goes : worker.GoesOn transport occurrence) {later : Worker State}
    (next : worker.occur transport occurrence = later) :
    later.activity = .stopped ∨
      later.queue = queue ∧
        (message = .ready → later.activity = .busy none later.controller.greet 0) := by
  obtain rfl := (idle_goesOn idle queued goes).symm.trans next
  rcases begin_mark message ({ worker with queue } : Worker State) with stopped | ⟨kept, -⟩
  · exact .inl (congrArg Worker.activity stopped)
  · by_cases alive : (({ worker with queue } : Worker State).begin message).activity = .stopped
    · exact .inl alive
    · refine .inr ⟨kept, ?_⟩
      rintro rfl
      unfold Worker.begin at alive ⊢
      split
      · rename_i cancelled
        simp [cancelled, stop] at alive
      · rfl

/-- Once it is begun, the worker comes to its decision. -/
theorem Fair.decides (fair : worker.Fair transport course) {number : Nat}
    (begun : (worker.endless transport course number).activity =
      .busy none (worker.endless transport course number).controller.greet 0) :
    ∃ later, number ≤ later ∧
      (worker.endless transport course later).Decides transport (course later) := by
  obtain ⟨later, after, goes, waits⟩ := fair.goes_on (busy_canGoOn begun)
  have busy := waits.activity.trans begun
  rw [← waits.controller] at busy
  have asking := busy
  rw [Controller.greet_eq] at asking
  obtain ⟨stepped, performed⟩ := act_goesOn asking goes
  exact ⟨later, after, busy, stepped, (congrArg Worker.activity performed).trans rfl⟩

/-- A worker that has not ended comes to be without an operation; no message leaves its queue until
then. -/
theorem Fair.frees (fair : worker.Fair transport course) {number : Nat}
    (alive : (worker.endless transport course number).activity ≠ .stopped) :
    ∃ later, number ≤ later ∧ (worker.endless transport course later).activity = .idle ∧
      ∃ more, (worker.endless transport course later).queue =
        (worker.endless transport course number).queue ++ more := by
  cases activity : (worker.endless transport course number).activity with
  | idle => exact ⟨number, Nat.le_refl _, activity, [], (List.append_nil _).symm⟩
  | busy ticket operation spent => exact fair.ends operation activity
  | stopped => exact absurd activity alive

/-- A worker with a first message in its queue takes it or stops, some time. -/
theorem Fair.takes (fair : worker.Fair transport course) {message : Message}
    {queue : List Message} {number : Nat}
    (alive : (worker.endless transport course number).activity ≠ .stopped)
    (queued : (worker.endless transport course number).queue = message :: queue) :
    ∃ later, number ≤ later ∧
      ((worker.endless transport course later).activity = .stopped ∨
        (∃ more, (worker.endless transport course later).queue = queue ++ more) ∧
          (message = .ready → (worker.endless transport course later).activity =
            .busy none (worker.endless transport course later).controller.greet 0)) := by
  obtain ⟨free, onwards, idle, more, grown⟩ := fair.frees alive
  have first : (worker.endless transport course free).queue = message :: (queue ++ more) := by
    rw [grown, queued, List.cons_append]
  obtain ⟨next, beyond, goes, same, -, further, extended⟩ :=
    fair.goes_on (idle_canGoOn idle first)
  have still : (worker.endless transport course next).queue =
      message :: (queue ++ more ++ further) := by
    rw [extended, first, List.cons_append]
  refine ⟨next + 1, by omega, ?_⟩
  rcases idle_takes (same.trans idle) still goes rfl with stopped | ⟨kept, begun⟩
  · exact .inl stopped
  · exact .inr ⟨⟨more ++ further, kept.trans (List.append_assoc _ _ _)⟩, begun⟩

/-- A message for a ready link in the queue leads to a decision, unless the worker ends. The
induction is on the messages before it. -/
theorem Fair.answers (fair : worker.Fair transport course) (before : List Message)
    {after : List Message} {number : Nat}
    (alive : (worker.endless transport course number).activity ≠ .stopped)
    (queued : (worker.endless transport course number).queue = before ++ .ready :: after) :
    ∃ later, number ≤ later ∧
      ((worker.endless transport course later).Decides transport (course later) ∨
        (worker.endless transport course later).activity = .stopped) := by
  induction before generalizing number after with
  | nil =>
    obtain ⟨next, onwards, stopped | ⟨-, begun⟩⟩ := fair.takes alive queued
    · exact ⟨next, onwards, .inr stopped⟩
    · obtain ⟨later, beyond, decides⟩ := fair.decides (begun rfl)
      exact ⟨later, by omega, .inl decides⟩
  | cons message before inductionHypothesis =>
    have first : (worker.endless transport course number).queue =
      message :: (before ++ .ready :: after) := queued
    obtain ⟨next, onwards, taken⟩ := fair.takes alive first
    by_cases stopped : (worker.endless transport course next).activity = .stopped
    · exact ⟨next, onwards, .inr stopped⟩
    · obtain ⟨⟨more, left⟩, -⟩ := taken.resolve_left stopped
      rw [List.append_assoc] at left
      obtain ⟨later, beyond, ends⟩ := inductionHypothesis stopped left
      exact ⟨later, by omega, ends⟩

/-- After every report of a ready link the worker decides, unless it ends. -/
theorem Fair.heeds (fair : worker.Fair transport course) (mindful : worker.Mindful) {number : Nat}
    {event : ConnectionEvent} (noticed : course number = .notice event)
    (ready : event.isReady = true) :
    ∃ later, number < later ∧
      ((worker.endless transport course later).Decides transport (course later) ∨
        (worker.endless transport course later).activity = .stopped) := by
  by_cases stopped : (worker.endless transport course (number + 1)).activity = .stopped
  · exact ⟨number + 1, Nat.lt_succ_self _, .inr stopped⟩
  · have marked : (worker.endless transport course (number + 1)).pairQueued = true := by
      rw [endless, noticed]
      exact notice_ready ready
    obtain ⟨before, after, queued⟩ :=
      List.append_of_mem (mindful.endless (number + 1) stopped marked)
    exact fair.answers before stopped queued

end Endless

end Worker

end MeshLight.Session
