import MeshLight.Proofs.Session.Lamp
import MeshLight.Proofs.Session.Succession

/-!
# Every request is answered once

A worker may be stopped between two requests or while the transport has a call of one. In both cases
every ticket has one answer in the end. What was served before the stop has the results of the
conversation; the request whose call was under way is cancelled; and whatever came behind it is told
that the worker stopped, without a trace of it anywhere else.

From the stop on the worker goes through at most three states: it carries the request under way to
its end, which is known; then it has nothing to do; and then it has ended.
-/

namespace MeshLight.Session

open Link (Tracker Transport)

variable {State : Type}

/-- Whether an occurrence tears the tracker down. A stop does that first; the message to stop comes
with it or later. -/
def Occurrence.tears : Occurrence → Bool
  | .shutDown => true
  | .share .cancel _ => true
  | _ => false

namespace Worker

/-! ## Results are only added -/

/-- Beginning a message leaves no result. -/
@[simp] theorem begin_results (message : Message) (worker : Worker State) :
    (worker.begin message).results = worker.results := by
  unfold Worker.begin
  split
  · rfl
  · cases message with
    | request ticket content => cases content <;> rfl
    | ready => rfl
    | shutdown => rfl

/-- Nor does putting one into the queue. -/
@[simp] theorem enqueue_results (message : Message) (worker : Worker State) :
    (worker.enqueue message).results = worker.results :=
  (enqueue_alone message worker).results

variable {transport : Transport State} {worker : Worker State} {occurrence : Occurrence}

/-- A worker that does not go on leaves no result. -/
theorem waits_results (waits : ¬worker.GoesOn transport occurrence) :
    (worker.occur transport occurrence).results = worker.results := by
  generalize happened : worker.occur transport occurrence = later
  cases occurs happened with
  | stepped stepped => exact absurd (by simp [GoesOn, stepped]) waits
  | submitted | asked | shut => simp
  | _ => rfl

/-- Whatever happens, a result that was left stays. -/
theorem occur_results (transport : Transport State) (worker : Worker State)
    (occurrence : Occurrence) : worker.results <+: (worker.occur transport occurrence).results := by
  by_cases goes : worker.GoesOn transport occurrence
  · generalize happened : worker.occur transport occurrence = later
    cases occurs happened with
    | stepped _ does =>
      cases does with
      | begin => simp
      | conclude ticket result controller =>
        cases ticket with
        | none => exact List.prefix_refl _
        | some ticket => exact List.prefix_append _ _
      | act => exact List.prefix_refl _
      | decide => exact List.prefix_refl _
    | unstepped | unexpired | expired => exact List.prefix_refl _
    | _ => cases goes
  · exact (waits_results goes).symm ▸ List.prefix_refl _

/-- Results stay for all time. -/
theorem endless_results (course : Nat → Occurrence) {time later : Nat} (after : time ≤ later) :
    (worker.endless transport course time).results <+:
      (worker.endless transport course later).results :=
  endless_keeps (fun later => (worker.endless transport course time).results <+: later.results)
    (fun grown occurrence => grown.trans (occur_results transport _ occurrence)) after
    (List.prefix_refl _)

/-! ## Teardowns -/

/-- A teardown tears the tracker; the worker stays where it is, and nothing is done. -/
theorem tear_occur (transport : Transport State) (worker : Worker State)
    (tears : occurrence.tears = true) :
    Torn (worker.occur transport occurrence).tracker ∧
      (worker.occur transport occurrence).activity = worker.activity ∧
      LeavesAlone worker (worker.occur transport occurrence) := by
  cases occurrence with
  | share operation handed =>
    cases operation with
    | cancel => exact ⟨.cancel worker.tracker, rfl, ⟨rfl, rfl, rfl, rfl, rfl⟩⟩
    | _ => cases tears
  | shutDown =>
    have waits : ¬worker.GoesOn transport .shutDown := id
    have marked : LeavesAlone worker
        { worker with world := worker.world.withTracker worker.tracker.cancel } :=
      ⟨rfl, rfl, rfl, rfl, rfl⟩
    refine ⟨?_, (occur_waits waits).activity, marked.trans (enqueue_alone .shutdown _)⟩
    simp only [occur, shutDown, tracker, enqueue_world]
    exact .cancel worker.tracker
  | _ => cases tears

/-- A message to stop stands in the queue of a worker that was shut down and has not ended. -/
theorem shutDown_queue (alive : worker.activity ≠ .stopped) : worker.shutDown.queue ≠ [] := by
  have torn : ({ worker with world := worker.world.withTracker worker.tracker.cancel } :
      Worker State).activity ≠ .stopped := alive
  have queued : worker.shutDown.queue = worker.queue ++ [.shutdown] :=
    congrArg Worker.queue (enqueue_alive torn .shutdown)
  simp [queued]

/-! ## A request under way -/

/-- Whether the transport has a call of an operation. -/
def inCall (worker : Worker State) : Bool :=
  match worker.activity with
  | .busy _ (.act .callReturn _) _ => true
  | _ => false

/-- In a call the operation goes on when the call returns. -/
theorem inCall_busy (calling : worker.inCall = true) :
    ∃ ticket next spent, worker.activity = .busy ticket (.act .callReturn next) spent := by
  unfold inCall at calling
  split at calling
  · rename_i busy
    exact ⟨_, _, _, busy⟩
  · cases calling

/-- A worker that was torn down with a request under way, the rest of which gives up. -/
structure Yielding (ticket : Nat) (controller : Controller) (results : List (Nat × Result))
    (worker : Worker State) : Prop where
  torn : Torn worker.tracker
  busy : ∃ rest spent, worker.activity = .busy (some ticket) rest spent ∧
    rest.GivesUp (Forgone controller)
  results : worker.results = results

/-- A worker that was torn down and has nothing to do. -/
structure Rested (controller : Controller) (results : List (Nat × Result)) (worker : Worker State) :
    Prop where
  finished : worker.Finished
  results : worker.results = results
  credentials : worker.controller.credentials = controller.credentials

variable {ticket : Nat} {controller : Controller} {results : List (Nat × Result)}

/-- A worker that was torn down with a request under way goes on with giving it up, or cancels
it. -/
theorem Yielding.goOn (yielding : Yielding ticket controller results worker)
    (lawful : transport.Lawful) (goes : worker.GoesOn transport occurrence) :
    Yielding ticket controller results (worker.occur transport occurrence) ∨
      Rested controller (results ++ [(ticket, .error .cancelled)])
        (worker.occur transport occurrence) := by
  have torn := occur_torn (fun action _ torn => torn.act lawful action) yielding.torn occurrence
  obtain ⟨before, ⟨rest, spent, busy, givesUp⟩, same⟩ := yielding
  cases rest with
  | done ended =>
    obtain ⟨cancelled, kept⟩ := givesUp
    have concluded := done_goesOn busy goes
    rw [concluded] at torn ⊢
    refine .inr ⟨⟨torn, .inl rfl⟩, ?_, kept⟩
    rw [← same, ← cancelled]
    rfl
  | act action next =>
    obtain ⟨-, performed⟩ := act_goesOn busy goes
    rw [performed] at torn ⊢
    exact .inl ⟨torn, ⟨_, 0, rfl, givesUp.2 _ (action.perform_tornReply before.cancelled)⟩, same⟩
  | await bound targets next =>
    have decided := before.verdict targets
    cases occurrence with
    | step =>
      have stepped : worker.occur transport .step =
          { worker with activity := .busy (some ticket) (next .cancelled) 0 } := by
        simp [Worker.occur, step?, busy, decided]
      rw [stepped]
      exact .inl ⟨before, ⟨_, 0, rfl, givesUp⟩, same⟩
    | expire => simp [GoesOn, expire?, busy, decided] at goes
    | _ => cases goes

/-- Whatever happens, a worker that was torn down with a request under way goes on with giving it
up, or has just cancelled it. -/
theorem Yielding.occur (yielding : Yielding ticket controller results worker)
    (lawful : transport.Lawful) (occurrence : Occurrence) :
    Yielding ticket controller results (worker.occur transport occurrence) ∨
      Rested controller (results ++ [(ticket, .error .cancelled)])
        (worker.occur transport occurrence) := by
  by_cases goes : worker.GoesOn transport occurrence
  · exact yielding.goOn lawful goes
  · have torn := occur_torn (fun action _ torn => torn.act lawful action) yielding.torn occurrence
    obtain ⟨rest, spent, busy, givesUp⟩ := yielding.busy
    exact .inl ⟨torn, ⟨rest, spent, (occur_waits goes).activity.trans busy, givesUp⟩,
      (waits_results goes).trans yielding.results⟩

/-! ## The end -/

/-- A worker that has ended with an empty queue stays so. -/
theorem stopped_occur (stopped : worker.activity = .stopped) (empty : worker.queue = [])
    (occurrence : Occurrence) :
    (worker.occur transport occurrence).activity = .stopped ∧
      (worker.occur transport occurrence).queue = [] := by
  generalize happened : worker.occur transport occurrence = later
  cases occurs happened with
  | stepped stepped => simp [step?, stopped] at stepped
  | expired _ _ _ busy => simp [stopped] at busy
  | submitted | asked | shut => simp [enqueue, stopped, empty]
  | _ => exact ⟨stopped, empty⟩

/-- A worker has an empty queue when it has ended. -/
def Drained (worker : Worker State) : Prop :=
  worker.activity = .stopped → worker.queue = []

/-- A message that is begun leaves an empty queue if it ends the worker. -/
theorem begin_drained (message : Message) (worker : Worker State) :
    (worker.begin message).Drained := by
  intro stopped
  unfold Worker.begin at stopped ⊢
  split at stopped
  · rename_i torn
    simp [torn, stop]
  · rename_i running
    cases message with
    | request ticket content => cases content <;> cases stopped
    | ready => cases stopped
    | shutdown => simp [running, stop]

/-- Whatever happens, a worker that has ended has an empty queue. -/
theorem Drained.occur (drained : worker.Drained) (occurrence : Occurrence) :
    (worker.occur transport occurrence).Drained := by
  by_cases ended : worker.activity = .stopped
  · exact fun _ => (stopped_occur ended (drained ended) occurrence).2
  · by_cases goes : worker.GoesOn transport occurrence
    · generalize happened : worker.occur transport occurrence = later
      cases occurs happened with
      | stepped _ does =>
        cases does with
        | begin message queue => exact begin_drained message _
        | _ => exact nofun
      | unstepped | unexpired => exact drained
      | expired => exact nofun
      | _ => cases goes
    · exact fun stopped => absurd ((occur_waits goes).activity ▸ stopped) ended

/-! ## Endless courses -/

section Endless

variable {course : Nat → Occurrence} {number : Nat}

/-- A worker without work leaves everything alone for all time. -/
theorem Finished.endless (finished : (worker.endless transport course number).Finished)
    {later : Nat} (after : number ≤ later) :
    (worker.endless transport course later).Finished ∧
      LeavesAlone (worker.endless transport course number)
        (worker.endless transport course later) := by
  refine endless_keeps
    (fun later => later.Finished ∧ LeavesAlone (worker.endless transport course number) later)
    (fun kept occurrence => ?_) after ⟨finished, ⟨rfl, rfl, rfl, rfl, rfl⟩⟩
  obtain ⟨still, alone⟩ := kept
  obtain ⟨now, further⟩ := still.occur transport occurrence
  exact ⟨now, alone.trans further⟩

/-- A worker that rests has had no results but these at any time. -/
theorem Rested.every (rested : Rested controller results (worker.endless transport course number))
    (time : Nat) : (worker.endless transport course time).results <+: results := by
  rw [← rested.results]
  by_cases early : time ≤ number
  · exact endless_results course early
  · obtain ⟨-, kept⟩ := rested.finished.endless (Nat.le_of_not_le early)
    exact kept.results ▸ List.prefix_refl _

/-- It has them for all time. -/
theorem Rested.endless (rested : Rested controller results (worker.endless transport course number))
    {later : Nat} (after : number ≤ later) :
    (worker.endless transport course later).results = results :=
  (rested.finished.endless after).2.results.trans rested.results

/-- A worker that was torn down with a request under way cancels it in the end. -/
theorem Yielding.ends (lawful : transport.Lawful) (fair : worker.Fair transport course)
    (yielding : Yielding ticket controller results (worker.endless transport course number)) :
    ∃ ended, number < ended ∧
      (∀ time, number ≤ time → time < ended →
        Yielding ticket controller results (worker.endless transport course time)) ∧
      Rested controller (results ++ [(ticket, .error .cancelled)])
        (worker.endless transport course ended) := by
  obtain ⟨rest, spent, busy, -⟩ := yielding.busy
  obtain ⟨later, after, idle, -⟩ := fair.ends rest busy
  obtain ⟨distance, rfl⟩ := Nat.exists_eq_add_of_le after
  clear after busy
  -- On how far off a time is at which the worker is free again.
  induction distance generalizing number with
  | zero =>
    obtain ⟨rest, spent, busy, -⟩ := yielding.busy
    exact absurd (idle.symm.trans busy) nofun
  | succ distance inductionHypothesis =>
    have shifted : number + 1 + distance = number + (distance + 1) := by omega
    rcases yielding.occur lawful (course number) with still | rested
    · obtain ⟨ended, after, during, rested⟩ :=
        @inductionHypothesis (number + 1) still (shifted ▸ idle)
      refine ⟨ended, by omega, fun time from_ before => ?_, rested⟩
      by_cases now : time = number
      · exact now ▸ yielding
      · exact during time (by omega) before
    · refine ⟨number + 1, by omega, fun time from_ before => ?_, rested⟩
      have now : time = number := by omega
      exact now ▸ yielding

/-- A worker without work that has a message stops in the end, and leaves its queue empty. -/
theorem Finished.stops (fair : worker.Fair transport course)
    (finished : (worker.endless transport course number).Finished)
    (idle : (worker.endless transport course number).activity = .idle)
    (queued : (worker.endless transport course number).queue ≠ []) :
    ∃ stopped, number < stopped ∧ (worker.endless transport course stopped).activity = .stopped ∧
      (worker.endless transport course stopped).queue = [] := by
  obtain ⟨message, queue, queueIs⟩ := List.exists_cons_of_ne_nil queued
  obtain ⟨later, after, goes, waits⟩ := fair.goes_on (idle_canGoOn idle queueIs)
  obtain ⟨more, grown⟩ := waits.queue
  rw [queueIs, List.cons_append] at grown
  have begun := idle_goesOn (waits.activity.trans idle) grown goes
  obtain ⟨still, -⟩ := finished.endless after
  have taken : ({ worker.endless transport course later with queue := queue ++ more } :
      Worker State).Finished := ⟨still.torn, still.free⟩
  rw [taken.begin] at begun
  exact ⟨later + 1, by omega, congrArg Worker.activity begun, congrArg Worker.queue begun⟩

/-- It stays so for all time. -/
theorem stopped_endless
    (stopped : (worker.endless transport course number).activity = .stopped)
    (empty : (worker.endless transport course number).queue = []) {later : Nat}
    (after : number ≤ later) :
    (worker.endless transport course later).activity = .stopped ∧
      (worker.endless transport course later).queue = [] :=
  endless_keeps (fun later => later.activity = .stopped ∧ later.queue = [])
    (fun ended => stopped_occur ended.1 ended.2) after ⟨stopped, empty⟩

/-- A worker that starts with an empty queue if it has ended always has one when it has ended. -/
theorem Drained.endless (drained : worker.Drained) (number : Nat) :
    (worker.endless transport course number).Drained :=
  endless_keeps Drained Drained.occur (Nat.zero_le number) drained

/-- A tracker that was torn down stays so for all time. -/
theorem endless_torn (lawful : transport.Lawful)
    (torn : Torn (worker.endless transport course number).tracker) {later : Nat}
    (after : number ≤ later) : Torn (worker.endless transport course later).tracker :=
  endless_keeps (fun later => Torn later.tracker)
    (occur_torn fun action _ torn => torn.act lawful action) after torn

/-- A worker that is shut down ends, and leaves its queue empty: whatever it is doing comes to an
end, and then the mark of the teardown meets a message. -/
theorem Fair.stops (lawful : transport.Lawful) (fair : worker.Fair transport course)
    (drained : worker.Drained) (asks : course number = .shutDown) :
    ∃ stopped, number ≤ stopped ∧ (worker.endless transport course stopped).activity = .stopped ∧
      (worker.endless transport course stopped).queue = [] := by
  by_cases ended : (worker.endless transport course number).activity = .stopped
  · exact ⟨number, Nat.le_refl number, ended, drained.endless number ended⟩
  · have queued : (worker.endless transport course (number + 1)).queue ≠ [] := by
      rw [Worker.endless, asks]
      exact shutDown_queue ended
    have tears : (course number).tears = true := by
      rw [asks]
      rfl
    obtain ⟨torn, same, -⟩ :=
      tear_occur transport (worker.endless transport course number) tears
    -- The next time at which the worker is free, and there still is a message.
    obtain ⟨free, since, idle, waiting⟩ : ∃ free, number + 1 ≤ free ∧
        (worker.endless transport course free).activity = .idle ∧
        (worker.endless transport course free).queue ≠ [] := by
      cases activity : (worker.endless transport course (number + 1)).activity with
      | idle => exact ⟨number + 1, Nat.le_refl _, activity, queued⟩
      | busy ticket rest spent =>
        obtain ⟨free, since, idle, more, grown⟩ := fair.ends rest activity
        exact ⟨free, since, idle, grown ▸ List.append_ne_nil_of_left_ne_nil queued more⟩
      | stopped => exact absurd (same.symm.trans activity) ended
    have now : Torn (worker.endless transport course (number + 1)).tracker := torn
    have finished : (worker.endless transport course free).Finished :=
      ⟨endless_torn lawful now since, .inl idle⟩
    obtain ⟨stopped, after, halted, empty⟩ := finished.stops fair idle waiting
    exact ⟨stopped, by omega, halted, empty⟩

end Endless

/-! ## The stop -/

section Stop

variable {start : Conversation State} {meshId : UInt16} {served waiting : List Request}

/-- A teardown between two requests leaves nothing to do. -/
theorem InTurn.tear_idle (inTurn : InTurn transport start meshId served waiting worker)
    (tears : occurrence.tears = true) (idle : worker.activity = .idle) :
    Rested (start.serve transport meshId served).controller worker.results
      (worker.occur transport occurrence) := by
  obtain ⟨-, -, -, -, stage⟩ := inTurn
  obtain ⟨torn, same, alone⟩ := tear_occur transport worker tears
  cases stage with
  | free _ controller =>
    exact ⟨⟨torn, .inl (same.trans idle)⟩, alone.results,
      congrArg Controller.credentials (alone.controller.trans controller)⟩
  | occupied rest spent busy => simp [busy] at idle

/-- A teardown inside a call leaves the rest of the request, which gives up. -/
theorem InTurn.tear_inCall (inTurn : InTurn transport start meshId served waiting worker)
    (tears : occurrence.tears = true) (calling : worker.inCall = true) :
    Yielding served.length (start.serve transport meshId served).controller worker.results
      (worker.occur transport occurrence) := by
  obtain ⟨-, -, -, -, stage⟩ := inTurn
  obtain ⟨ticket, next, spent, called⟩ := inCall_busy calling
  obtain ⟨torn, same, alone⟩ := tear_occur transport worker tears
  cases stage with
  | free idle => simp [idle] at called
  | occupied rest spent busy ends surrenders =>
    rw [busy] at called
    cases called
    exact ⟨torn, ⟨_, _, same.trans busy, surrenders.1 rfl⟩, alone.results⟩

end Stop

/-! ## Answers -/

/-- What a ticket gives by a result or by the end of the worker. -/
theorem collect_some {ticket : Nat} {result : Result}
    (given : (worker.collect ticket).1 = some result) :
    worker.results.lookup ticket = some result ∨
      worker.results.lookup ticket = none ∧ worker.owes ticket = false ∧
        result = .error .workerStopped := by
  unfold collect at given
  cases found : worker.results.lookup ticket with
  | some held => exact .inl (by simpa [found] using given)
  | none =>
    cases owed : worker.owes ticket with
    | true => simp [found, owed] at given
    | false => exact .inr ⟨rfl, rfl, by simpa [found, owed, eq_comm] using given⟩

/-- What a ticket comes to if these are all the results: one of them, or the word that the worker
stopped. -/
def answerTo (answers : List Result) (ticket : Nat) : Result :=
  answers[ticket]?.getD (.error .workerStopped)

/-- A worker that has ended with an empty queue answers every ticket. -/
theorem collect_stopped (stopped : worker.activity = .stopped) (empty : worker.queue = [])
    {answers : List Result} (all : worker.results = numbered answers) (ticket : Nat) :
    (worker.collect ticket).1 = some (answerTo answers ticket) := by
  have settled : worker.owes ticket = false := by simp [owes, stopped, empty]
  rw [collect, all, lookup_numbered, answerTo]
  cases answers[ticket]? with
  | some result => rfl
  | none => simp only [settled, Bool.false_eq_true, if_false, Option.getD_none]

/-- The results of a worker that is stopped at a point: those that it has, and one more if a call is
under way. -/
def answersAt (served : List Result) (worker : Worker State) : List Result :=
  match worker.activity with
  | .idle => served
  | _ => served ++ [.error .cancelled]

/-- A result that was left is among the answers. -/
theorem lookup_answers {answers : List Result} {results : List (Nat × Result)}
    (grown : results <+: numbered answers) {ticket : Nat} {result : Result}
    (held : results.lookup ticket = some result) : answers[ticket]? = some result := by
  obtain ⟨more, same⟩ := grown
  rw [← lookup_numbered, ← same, List.lookup_append, held]
  rfl

/-- The request under way is the only one without a result that is not told that the worker
stopped. -/
theorem Yielding.missing {served : List Result} {controller : Controller}
    (yielding : Yielding served.length controller (numbered served) worker) {ticket : Nat}
    (missing : worker.results.lookup ticket = none) (settled : worker.owes ticket = false) :
    served.length + 1 ≤ ticket := by
  rw [yielding.results, lookup_numbered] at missing
  have beyond := List.getElem?_eq_none_iff.mp missing
  obtain ⟨rest, spent, busy, -⟩ := yielding.busy
  by_contra inside
  have now : ticket = served.length := by omega
  rw [now, owes_busy busy] at settled
  cases settled

/-- A stop adds one result at most. -/
theorem answersAt_length (served : List Result) (worker : Worker State) :
    (answersAt served worker).length ≤ served.length + 1 := by
  unfold answersAt
  split <;> simp

section Stopped

variable {start : Conversation State} {meshId : UInt16} {served waiting : List Request}
  {course : Nat → Occurrence} {number : Nat}

/-- A worker that is torn down while it serves in turn gives up what is under way, and rests. -/
theorem InTurn.rests (lawful : transport.Lawful) (fair : worker.Fair transport course)
    (fresh : start.results = []) (inTurn : InTurn transport start meshId served waiting
      (worker.endless transport course number))
    (tears : (course number).tears = true)
    (lands : (worker.endless transport course number).activity = .idle ∨
      (worker.endless transport course number).inCall = true) :
    let reached := worker.endless transport course number
    let conversation := start.serve transport meshId served
    ∃ ended, number < ended ∧
      (reached.activity = .idle → LeavesAlone reached (worker.endless transport course ended)) ∧
      (∀ time, number < time → time < ended →
        Yielding served.length conversation.controller reached.results
          (worker.endless transport course time)) ∧
      Rested conversation.controller (numbered (answersAt conversation.results reached))
        (worker.endless transport course ended) := by
  intro reached conversation
  rcases lands with idle | calling
  · have rested : Rested _ _ (worker.endless transport course (number + 1)) :=
      inTurn.tear_idle tears idle
    have none : answersAt conversation.results reached = conversation.results := by
      simp only [answersAt, reached, idle]
    obtain ⟨-, -, alone⟩ := tear_occur transport reached tears
    rw [inTurn.results, ← none] at rested
    exact ⟨number + 1, Nat.lt_succ_self number, fun _ => alone,
      fun time after before => by omega, rested⟩
  · have yielding : Yielding _ _ _ (worker.endless transport course (number + 1)) :=
      inTurn.tear_inCall tears calling
    obtain ⟨ended, after, during, rested⟩ := yielding.ends lawful fair
    obtain ⟨ticket, next, spent, called⟩ := inCall_busy calling
    have busy : reached.activity ≠ .idle := by
      simp [reached, called]
    have one : answersAt conversation.results reached =
        conversation.results ++ [.error .cancelled] := by
      simp only [answersAt, reached, called]
    have length := start.serve_length transport meshId served
    rw [fresh, List.length_nil, Nat.zero_add] at length
    rw [inTurn.results, ← length, ← numbered_concat, ← one] at rested
    exact ⟨ended, by omega, fun idle => absurd idle busy,
      fun time after before => during time after before, rested⟩

/-- A ticket that was handed out stands behind all answers once it can get no result any more and
has none: before the teardown there is none like that, then only the request under way is answered
yet, and in the end every answer is there. -/
theorem InTurn.beyond (began : InTurn transport start meshId [] [] worker)
    (lawful : transport.Lawful) (fresh : start.results = [])
    (ordinary : ∀ earlier < number, (course earlier).ordinary = true) {ended : Nat}
    {controller : Controller} {before answers : List Result}
    (few : answers.length ≤ before.length + 1)
    (during : ∀ time, number < time → time < ended →
      Yielding before.length controller (numbered before) (worker.endless transport course time))
    (rested : Rested controller (numbered answers) (worker.endless transport course ended))
    {time ticket : Nat} (handed : ticket < (worker.endless transport course time).nextTicket)
    (missing : (worker.endless transport course time).results.lookup ticket = none)
    (settled : (worker.endless transport course time).owes ticket = false) :
    answers[ticket]? = none := by
  rcases Nat.lt_or_ge number time with later | early
  · by_cases gone : ended ≤ time
    · rw [rested.endless gone, lookup_numbered] at missing
      exact missing
    · have under := during time later (Nat.lt_of_not_le gone)
      exact List.getElem?_eq_none (Nat.le_trans few (under.missing missing settled))
  · obtain ⟨_, _, -, inTurn⟩ := began.endless lawful fresh time
      fun earlier before => ordinary earlier (Nat.lt_of_lt_of_le before early)
    rw [inTurn.owes fresh handed missing] at settled
    cases settled

end Stopped

end Worker

/-- A bulb reports through the completion that it was given, and does nothing else to a tracker. -/
theorem bulb_lawful : Bulb.transport.Lawful where
  write characteristic value completion bulb tracker := by
    cases reported : (bulb.write characteristic value).1 with
    | none => simpa [Bulb.transport, Bulb.deliver, reported] using Tracker.MayBecome.refl tracker
    | some report =>
      simpa [Bulb.transport, Bulb.deliver, reported] using
        Tracker.MayBecome.report tracker completion report
  read characteristic completion bulb tracker := by
    cases reported : (bulb.read characteristic).1 with
    | none => simpa [Bulb.transport, Bulb.deliver, reported] using Tracker.MayBecome.refl tracker
    | some report =>
      simpa [Bulb.transport, Bulb.deliver, reported] using
        Tracker.MayBecome.report tracker completion report
  disconnect _ tracker := .refl tracker
  callReturn _ tracker := .refl tracker

/-- Every request is answered exactly once, in the order of the submissions.

Requests are submitted in any order with the steps of the worker, and at some point the worker is
stopped, between two requests or while the transport has a call of one. A stop tears the tracker
down and asks the worker to stop, with it or later. The results that the worker has when it is torn
down are those of a conversation with the requests that it has served. The request whose call is
under way gets one more, a cancellation; everything behind it is told that the worker stopped. At no
point does a ticket give anything else, and in the end each gives its answer for all time. Once the
request under way has ended, no call is made, nothing is reported, and the controller keeps all that
it has. -/
theorem requests_answered_once {transport : Transport State} (lawful : transport.Lawful)
    (settings : Settings) (unseeded : Random.Source) (state : State) (course : Nat → Occurrence)
    (number asked : Nat) (ordinary : ∀ earlier < number, (course earlier).ordinary = true)
    (tears : (course number).tears = true) (asks : course asked = .shutDown)
    (fair : (Worker.start settings unseeded state).Fair transport course)
    (lands : ((Worker.start settings unseeded state).endless transport course number).activity =
        .idle ∨ ((Worker.start settings unseeded state).endless transport course number).inCall =
        true) :
    let worker := (Worker.start settings unseeded state).endless transport course
    let reached := worker number
    let served := (Worker.submissions course number).take reached.results.length
    let conversation := (Conversation.start (.ofSettings settings unseeded) state).serve transport
      settings.meshId served
    let answers := Worker.answersAt conversation.results reached
    reached.results = numbered conversation.results ∧
      (∀ time, (worker time).results <+: numbered answers) ∧
      (∀ time ticket result, ticket < (worker time).nextTicket →
        ((worker time).collect ticket).1 = some result →
          result = Worker.answerTo answers ticket) ∧
      ∃ ended, number < ended ∧
        (reached.activity = .idle → Worker.LeavesAlone reached (worker ended)) ∧
        (∀ time, number < time → time < ended → ∃ rest spent,
          (worker time).activity = .busy (some served.length) rest spent) ∧
        (worker ended).controller.credentials = conversation.controller.credentials ∧
        (∀ later, ended ≤ later → Worker.LeavesAlone (worker ended) (worker later)) ∧
        ∃ stopped, ended ≤ stopped ∧ ∀ later, stopped ≤ later →
          (worker later).activity = .stopped ∧
            ∀ ticket, ((worker later).collect ticket).1 =
              some (Worker.answerTo answers ticket) := by
  intro worker reached served conversation answers
  have began : Worker.InTurn transport _ _ [] [] _ := .began settings unseeded state
  obtain ⟨before, waiting, all, inTurn⟩ := began.endless lawful rfl number ordinary
  have servedIs : served = before := by
    have counted : reached.results.length = before.length := by
      rw [inTurn.results]
      simp [numbered, Conversation.serve_length, Conversation.start]
    have taken : served = (before ++ waiting).take before.length := by
      simp only [served, all, counted]
    rw [taken, List.take_left]
  have results : reached.results = numbered conversation.results := by
    simp only [conversation, servedIs]
    exact inTurn.results
  have length : conversation.results.length = served.length := by
    simp [conversation, Conversation.serve_length, Conversation.start]
  obtain ⟨ended, after, alone, during, rested⟩ := inTurn.rests lawful fair rfl tears lands
  rw [← servedIs, ← length, inTurn.results, ← servedIs] at during
  rw [← servedIs] at rested
  have drained : (Worker.start settings unseeded state).Drained := fun _ => rfl
  obtain ⟨stopped, -, halted, empty⟩ := fair.stops lawful drained asks
  refine ⟨results, rested.every, fun time ticket result handed given => ?_, ended, after, alone,
    fun time later earlier => ?_, rested.credentials,
    fun later since => (rested.finished.endless since).2, max ended stopped, Nat.le_max_left _ _,
    fun later since => ?_⟩
  · rcases Worker.collect_some given with held | ⟨missing, settled, rfl⟩
    · rw [Worker.answerTo, Worker.lookup_answers (rested.every time) held]
      rfl
    · have few := Worker.answersAt_length conversation.results reached
      have none := began.beyond lawful rfl ordinary few during rested handed missing settled
      rw [Worker.answerTo, none]
      rfl
  · obtain ⟨rest, spent, busy, -⟩ := (during time later earlier).busy
    exact ⟨rest, spent, length ▸ busy⟩
  · obtain ⟨rests, ends⟩ := Nat.max_le.mp since
    obtain ⟨still, none⟩ := Worker.stopped_endless halted empty ends
    exact ⟨still, Worker.collect_stopped still none (rested.endless rests)⟩

/-- A handle is dropped while the first write of a pairing is under way: somebody else asks for a
pairing between the teardown and the message to stop. -/
def dropAmidPairing : Nat → Occurrence
  | 0 => .submit .status
  | 1 => .submit .pair
  | 2 => .submit .status
  | 15 => .share .cancel []
  | 16 => .submit .pair
  | 17 => .shutDown
  | _ => .expire

/-- The status is refused, the pairing is cancelled, and the worker stops for the others. -/
theorem requests_answered_once_drop :
    let settings : Settings :=
      { address := someLight.address, credentials := someLight.credentials }
    let course := Worker.interleave dropAmidPairing
    let worker := (Worker.start settings { word := fun _ => 7 }
      (Bulb.new someLight { word := fun _ => 5 })).endless Bulb.transport course
    (∀ earlier < 47, (course earlier).ordinary = true) ∧ (course 47).tears = true ∧
      course 53 = .shutDown ∧ (worker 47).inCall = true ∧
      ∃ stopped, ∀ later, stopped ≤ later →
        ((worker later).collect 0).1 = some (.error (.notEstablished someLight.address)) ∧
          ((worker later).collect 1).1 = some (.error .cancelled) ∧
          ∀ ticket, 2 ≤ ticket →
            ((worker later).collect ticket).1 = some (.error .workerStopped) := by
  intro settings course worker
  have ordinary : ∀ earlier < 47, (course earlier).ordinary = true := by decide
  have calling : (worker 47).inCall = true := by decide +kernel
  have answered := requests_answered_once bulb_lawful settings { word := fun _ => 7 }
    (Bulb.new someLight { word := fun _ => 5 }) course 47 53 ordinary rfl rfl
    (Worker.interleave_fair dropAmidPairing) (.inr calling)
  obtain ⟨-, -, -, ended, -, -, -, -, -, stopped, -, gives⟩ := answered
  have answers : Worker.answersAt ((Conversation.start (.ofSettings settings { word := fun _ => 7 })
      (Bulb.new someLight { word := fun _ => 5 })).serve Bulb.transport settings.meshId
        ((Worker.submissions course 47).take (worker 47).results.length)).results (worker 47) =
      [.error (.notEstablished someLight.address), .error .cancelled] := by decide +kernel
  rw [answers] at gives
  refine ⟨ordinary, rfl, rfl, calling, stopped,
    fun later since => ⟨?_, ?_, fun ticket behind => ?_⟩⟩
  · exact (gives later since).2 0
  · exact (gives later since).2 1
  · obtain ⟨distance, rfl⟩ := Nat.exists_eq_add_of_le' behind
    exact (gives later since).2 (distance + 2)

end MeshLight.Session
