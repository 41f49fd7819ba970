import MeshLight.Proofs.Session.Conversation
import MeshLight.Proofs.Session.Schedule
import MeshLight.Proofs.Session.Surrender

/-!
# Requests in turn

As long as nobody tears the tracker down, a worker carries requests out one after the other, in the
order in which they were submitted, whatever the order is in which submissions, steps and ends of
waits follow each other. At each point some requests have been served, which is a conversation run
to its end, and the others wait; the operation on the first of them may be under way, and then the
rest of it comes to the end that the whole operation comes to. So the results are those of the
conversation, under the tickets from zero on.
-/

namespace MeshLight.Session

open Link (Tracker Transport)

variable {State : Type}

/-! ## Actions and the mark of a teardown -/

section Lawful

variable {transport : Transport State} (lawful : transport.Lawful) (action : Action)
  (world : World State)

include lawful

/-- What an action makes of a tracker on a lawful transport: no teardown. -/
theorem Action.perform_cancelled :
    (action.perform transport world).2.tracker.cancelled = world.tracker.cancelled := by
  cases action with
  | installKey key epoch =>
    simp only [Action.perform, World.onTracker, Tracker.installKey]
    split <;> rfl
  | write characteristic value completion =>
    exact (lawful.write characteristic value completion world.transport world.tracker).cancelled
  | read characteristic completion =>
    exact (lawful.read characteristic completion world.transport world.tracker).cancelled
  | disconnect => exact (lawful.disconnect world.transport world.tracker).cancelled
  | callReturn => exact (lawful.callReturn world.transport world.tracker).cancelled
  | _ => rfl

variable {world}

/-- A torn tracker stays torn. -/
theorem Torn.act (torn : Torn world.tracker) :
    Torn (action.perform transport world).2.tracker := by
  refine ⟨(action.perform_cancelled lawful world).trans torn.cancelled, ?_⟩
  cases action with
  | installKey key epoch =>
    simp [Action.perform, World.onTracker, Tracker.installKey, torn.cancelled, torn.keyless]
  | clearKey => rfl
  | write characteristic value completion =>
    exact (lawful.write characteristic value completion world.transport world.tracker).keyless
      torn.keyless
  | read characteristic completion =>
    exact (lawful.read characteristic completion world.transport world.tracker).keyless
      torn.keyless
  | disconnect => exact (lawful.disconnect world.transport world.tracker).keyless torn.keyless
  | callReturn => exact (lawful.callReturn world.transport world.tracker).keyless torn.keyless
  | _ => exact torn.keyless

end Lawful

/-- A torn tracker says that it was torn down. -/
theorem Action.perform_tornReply {transport : Transport State} {world : World State}
    (torn : world.tracker.cancelled = true) (action : Action) :
    action.TornReply (action.perform transport world).1 := by
  cases action with
  | isCancelled => exact torn
  | _ => trivial

/-! ## Conversations of requests -/

namespace Conversation

variable (transport : Transport State) (meshId : UInt16) (conversation : Conversation State)

/-- A conversation goes on with requests alone. -/
def serve (requests : List Request) : Conversation State :=
  conversation.run transport (fun incident : Empty => incident.elim)
    (requests.map (.operation meshId))

/-- The last request comes last. -/
theorem serve_concat (requests : List Request) (request : Request) :
    conversation.serve transport meshId (requests ++ [request]) =
      let before := conversation.serve transport meshId requests
      let performed := (before.controller.perform meshId request).finish transport before.world
      { controller := performed.1.2, world := performed.2,
        results := before.results ++ [performed.1.1] } := by
  simp only [serve, run, List.map_append, List.foldl_append]
  rfl

/-- Each request has a result. -/
theorem serve_length (requests : List Request) :
    (conversation.serve transport meshId requests).results.length =
      conversation.results.length + requests.length := by
  induction requests using List.reverseRecOn with
  | nil => rfl
  | append_singleton earlier request inductionHypothesis =>
    rw [serve_concat]
    simp only [List.length_append, inductionHypothesis, List.length_singleton, Nat.add_assoc]

end Conversation

/-! ## Tickets -/

/-- Results under their tickets. -/
def numbered (results : List Result) : List (Nat × Result) :=
  results.zipIdx.map Prod.swap

/-- Requests as they stand in a queue, the first one under this ticket. -/
def queued (ticket : Nat) (requests : List Request) : List Message :=
  (requests.zipIdx ticket).map fun entry => .request entry.2 entry.1

/-- One more result. -/
theorem numbered_concat (results : List Result) (result : Result) :
    numbered (results ++ [result]) = numbered results ++ [(results.length, result)] := by
  simp [numbered, List.zipIdx_append]

/-- One more request. -/
theorem queued_concat (ticket : Nat) (requests : List Request) (request : Request) :
    queued ticket (requests ++ [request]) =
      queued ticket requests ++ [.request (ticket + requests.length) request] := by
  simp [queued, List.zipIdx_append]

/-- The first request stands in front. -/
theorem queued_cons (ticket : Nat) (request : Request) (requests : List Request) :
    queued ticket (request :: requests) =
      .request ticket request :: queued (ticket + 1) requests := rfl

/-- Each request stands in the queue under its ticket. -/
theorem mem_queued {first ticket : Nat} {requests : List Request} (after : first ≤ ticket)
    (before : ticket < first + requests.length) :
    ∃ request, .request ticket request ∈ queued first requests := by
  induction requests generalizing first with
  | nil => exact absurd before (Nat.not_lt_of_le after)
  | cons request later inductionHypothesis =>
    rw [queued_cons]
    by_cases now : ticket = first
    · exact ⟨request, now ▸ List.mem_cons_self⟩
    · rw [List.length_cons] at before
      have further : first + 1 ≤ ticket := by omega
      obtain ⟨found, among⟩ := inductionHypothesis further (by omega)
      exact ⟨found, List.mem_cons_of_mem _ among⟩

/-- A result is found under its number. -/
theorem lookup_numbered (results : List Result) (ticket : Nat) :
    (numbered results).lookup ticket = results[ticket]? := by
  induction results using List.reverseRecOn with
  | nil => rfl
  | append_singleton earlier result inductionHypothesis =>
    rw [numbered_concat, List.lookup_append, inductionHypothesis]
    by_cases inside : ticket < earlier.length
    · rw [List.getElem?_append_left inside, List.getElem?_eq_getElem inside]
      rfl
    · by_cases last : ticket = earlier.length
      · simp [last]
      · have beyond : (earlier ++ [result]).length ≤ ticket := by
          rw [List.length_append, List.length_singleton]
          omega
        have other : (ticket == earlier.length) = false := by simpa using last
        rw [List.getElem?_eq_none (Nat.le_of_not_lt inside), List.getElem?_eq_none beyond]
        simp [List.lookup_cons, other]

/-! ## Serving in turn -/

/-- The request that an occurrence submits, if it submits one. -/
def Occurrence.request? : Occurrence → Option Request
  | .submit request => some request
  | _ => none

/-- Whether an occurrence is a step, the end of a wait or a submission. -/
def Occurrence.ordinary : Occurrence → Bool
  | .step => true
  | .expire => true
  | .submit _ => true
  | _ => false

namespace Worker

/-- Where a worker stands that serves requests in turn: those that it has served are a conversation,
and the others wait. If the first of these is under way, the rest of its operation has the same end
as the whole, and surrenders to a teardown. -/
inductive Stage (transport : Transport State) (reached : Conversation State) (ticket : Nat) :
    List Request → Worker State → Prop where
  | free {waiting : List Request} {worker : Worker State} (idle : worker.activity = .idle)
    (controller : worker.controller = reached.controller) (world : worker.world = reached.world)
    (queue : worker.queue = queued ticket waiting) : Stage transport reached ticket waiting worker
  | occupied {request : Request} {later : List Request} {worker : Worker State}
    (rest : Procedure (Result × Controller)) (spent : Nat)
    (busy : worker.activity = .busy (some ticket) rest spent)
    (ends : rest.finish transport worker.world =
      (reached.controller.perform worker.meshId request).finish transport reached.world)
    (surrenders : rest.Surrenders (Forgone reached.controller))
    (controller : worker.controller = reached.controller)
    (queue : worker.queue = queued (ticket + 1) later) :
    Stage transport reached ticket (request :: later) worker

/-- A worker that serves requests in turn for a mesh, from a point at which a conversation starts.
Every request has its ticket, and every one that was served has its result; nobody tore the tracker
down. -/
structure InTurn (transport : Transport State) (start : Conversation State) (meshId : UInt16)
    (served waiting : List Request) (worker : Worker State) : Prop where
  mesh : worker.meshId = meshId
  tickets : worker.nextTicket = served.length + waiting.length
  running : worker.tracker.cancelled = false
  results : worker.results = numbered (start.serve transport meshId served).results
  stage : Stage transport (start.serve transport meshId served) served.length waiting worker

variable {transport : Transport State} {start : Conversation State} {meshId : UInt16}
  {served waiting : List Request} {worker later : Worker State}

/-- A worker that serves in turn has not ended. -/
theorem Stage.alive {reached : Conversation State} {ticket : Nat}
    (stage : Stage transport reached ticket waiting worker) : worker.activity ≠ .stopped := by
  cases stage with
  | free idle => simp [idle]
  | occupied rest spent busy => simp [busy]

/-- A worker that was not torn down begins a request. -/
theorem begin_request (running : worker.tracker.cancelled = false) (ticket : Nat)
    (request : Request) :
    ∃ mark, worker.begin (.request ticket request) =
      { worker with
        pairQueued := mark
        activity := .busy (some ticket) (worker.controller.perform worker.meshId request) 0 } := by
  unfold Worker.begin
  rw [running]
  cases request with
  | pair => exact ⟨false, rfl⟩
  | _ => exact ⟨worker.pairQueued, rfl⟩

/-- A free worker begins the first request that waits. -/
theorem InTurn.begin (inTurn : InTurn transport start meshId served waiting worker)
    (idle : worker.activity = .idle) {message : Message} {queue : List Message}
    (taken : worker.queue = message :: queue) :
    InTurn transport start meshId served waiting
      (({ worker with queue } : Worker State).begin message) := by
  obtain ⟨mesh, tickets, running, results, stage⟩ := inTurn
  cases stage with
  | occupied rest spent busy => simp [busy] at idle
  | free _ controller world queueIs =>
    cases waiting with
    | nil => simp [taken, queued] at queueIs
    | cons request later =>
      rw [taken, queued_cons, List.cons.injEq] at queueIs
      obtain ⟨rfl, rfl⟩ := queueIs
      obtain ⟨mark, begun⟩ := @begin_request _
        { worker with queue := queued (served.length + 1) later } running served.length request
      rw [begun]
      refine ⟨mesh, tickets, running, results, .occupied _ 0 rfl ?_ ?_ controller rfl⟩
      · rw [controller, world]
      · rw [controller]
        exact Controller.perform_surrenders _ _ _

/-- A step serves in turn. -/
theorem InTurn.step (inTurn : InTurn transport start meshId served waiting worker)
    (lawful : transport.Lawful) (fresh : start.results = []) (does : Does transport worker later) :
    ∃ servedNow waitingNow, servedNow ++ waitingNow = served ++ waiting ∧
      InTurn transport start meshId servedNow waitingNow later := by
  cases does with
  | begin message queue idle taken => exact ⟨served, waiting, rfl, inTurn.begin idle taken⟩
  | conclude ticket result controller busy =>
    obtain ⟨mesh, tickets, running, results, stage⟩ := inTurn
    cases stage with
    | free idle => simp [idle] at busy
    | @occupied request later _ rest spent busyToo ends surrenders _ queue =>
      rw [busyToo] at busy
      cases busy
      have reached : start.serve transport meshId (served ++ [request]) =
          { controller, world := worker.world,
            results := (start.serve transport meshId served).results ++ [result] } := by
        rw [mesh] at ends
        simp only [Conversation.serve_concat, ← ends]
        rfl
      have length := start.serve_length transport meshId served
      rw [fresh, List.length_nil, Nat.zero_add] at length
      refine ⟨served ++ [request], later, List.append_assoc _ [request] later, mesh, ?_, running,
        ?_, ?_⟩
      · rw [List.length_append, List.length_singleton]
        exact tickets.trans (by rw [List.length_cons]; omega)
      · rw [reached, numbered_concat, length, ← results]
        rfl
      · rw [reached]
        exact .free rfl rfl rfl (by rw [List.length_append]; exact queue)
  | act ticket action next busy =>
    obtain ⟨mesh, tickets, running, results, stage⟩ := inTurn
    cases stage with
    | free idle => simp [idle] at busy
    | occupied rest spent busyToo ends surrenders controller queue =>
      rw [busyToo] at busy
      cases busy
      exact ⟨served, _, rfl, mesh, tickets,
        (action.perform_cancelled lawful worker.world).trans running, results,
        .occupied _ 0 rfl ends (surrenders.2 _) controller queue⟩
  | decide ticket targets next verdict busy decided =>
    obtain ⟨mesh, tickets, running, results, stage⟩ := inTurn
    cases stage with
    | free idle => simp [idle] at busy
    | occupied rest spent busyToo ends surrenders controller queue =>
      rw [busyToo] at busy
      cases busy
      have decided : worker.world.tracker.verdict? targets = some verdict := decided
      rw [Procedure.finish, decided] at ends
      exact ⟨served, _, rfl, mesh, tickets, running, results,
        .occupied _ 0 rfl ends (surrenders verdict) controller queue⟩

/-- An ordinary occurrence keeps a worker serving in turn; a request that is submitted waits behind
all others. -/
theorem InTurn.occur (inTurn : InTurn transport start meshId served waiting worker)
    (lawful : transport.Lawful) (fresh : start.results = []) {occurrence : Occurrence}
    (ordinary : occurrence.ordinary = true) :
    ∃ servedNow waitingNow,
      servedNow ++ waitingNow = served ++ waiting ++ occurrence.request?.toList ∧
        InTurn transport start meshId servedNow waitingNow
          (worker.occur transport occurrence) := by
  generalize happened : worker.occur transport occurrence = later
  cases occurs happened with
  | unstepped => exact ⟨served, waiting, (List.append_nil _).symm, inTurn⟩
  | stepped stepped does =>
    obtain ⟨servedNow, waitingNow, same, now⟩ := inTurn.step lawful fresh does
    exact ⟨servedNow, waitingNow, same.trans (List.append_nil _).symm, now⟩
  | unexpired => exact ⟨served, waiting, (List.append_nil _).symm, inTurn⟩
  | expired ticket targets next busy undecided =>
    obtain ⟨mesh, tickets, running, results, stage⟩ := inTurn
    cases stage with
    | free idle => simp [idle] at busy
    | occupied rest spent busyToo ends surrenders controller queue =>
      rw [busyToo] at busy
      cases busy
      have unmet : worker.world.tracker.verdict? targets = none := by
        cases met : worker.world.tracker.verdict? targets with
        | none => rfl
        | some verdict => simp [expire?, busyToo, tracker, met] at undecided
      rw [Procedure.finish, unmet] at ends
      exact ⟨served, _, (List.append_nil _).symm, mesh, tickets, running, results,
        .occupied _ 0 rfl ends (surrenders .timedOut) controller queue⟩
  | submitted request =>
    obtain ⟨mesh, tickets, running, results, stage⟩ := inTurn
    have alive : ({ worker with nextTicket := worker.nextTicket + 1 } : Worker State).activity ≠
        .stopped := stage.alive
    rw [enqueue_alive alive]
    refine ⟨served, waiting ++ [request], (List.append_assoc _ _ _).symm, mesh, ?_, running,
      results, ?_⟩
    · simp only [tickets, List.length_append, List.length_singleton, Nat.add_assoc]
    · cases stage with
      | free idle controller world queue =>
        refine .free idle controller world ?_
        simp only [queue, tickets, queued_concat]
      | @occupied first later _ rest spent busy ends surrenders controller queue =>
        refine .occupied rest spent busy ends surrenders controller ?_
        have place :
            served.length + (first :: later).length = served.length + 1 + later.length := by
          rw [List.length_cons]
          omega
        simp only [queue, tickets, place]
        exact (queued_concat _ _ _).symm
  | _ => cases ordinary

/-- A worker owes the result of a request in its queue. -/
theorem owes_queued {ticket : Nat} {request : Request}
    (among : .request ticket request ∈ worker.queue) : worker.owes ticket = true := by
  rw [owes, Bool.or_eq_true]
  exact .inr (List.any_eq_true.mpr ⟨_, among, beq_self_eq_true ticket⟩)

/-- A worker owes the result of the request under way. -/
theorem owes_busy {ticket spent : Nat} {rest : Procedure (Result × Controller)}
    (busy : worker.activity = .busy (some ticket) rest spent) : worker.owes ticket = true := by
  simp [owes, busy]

/-- The worker owes the result of every ticket that was handed out and has none yet. -/
theorem InTurn.owes (inTurn : InTurn transport start meshId served waiting worker)
    (fresh : start.results = []) {ticket : Nat} (handed : ticket < worker.nextTicket)
    (missing : worker.results.lookup ticket = none) : worker.owes ticket = true := by
  obtain ⟨-, tickets, -, results, stage⟩ := inTurn
  have length := start.serve_length transport meshId served
  rw [fresh, List.length_nil, Nat.zero_add] at length
  rw [results, lookup_numbered] at missing
  have behind : served.length ≤ ticket := length ▸ List.getElem?_eq_none_iff.mp missing
  cases stage with
  | free idle controller world queue =>
    obtain ⟨request, among⟩ := mem_queued behind (tickets ▸ handed)
    exact owes_queued (queue ▸ among)
  | @occupied first later _ rest spent busy ends surrenders controller queue =>
    by_cases now : ticket = served.length
    · exact owes_busy (now ▸ busy)
    · rw [List.length_cons] at tickets
      have further : served.length + 1 ≤ ticket := by omega
      obtain ⟨request, among⟩ := mem_queued further (by omega : ticket < _ + later.length)
      exact owes_queued (queue ▸ among)

/-- A worker that has nothing to do yet serves in turn. -/
theorem InTurn.began (settings : Settings) (unseeded : Random.Source) (state : State) :
    InTurn transport (.start (.ofSettings settings unseeded) state) settings.meshId [] []
      (Worker.start settings unseeded state) where
  mesh := rfl
  tickets := rfl
  running := rfl
  results := rfl
  stage := .free rfl rfl rfl rfl

/-- The requests that are submitted in the course of as many occurrences as the number says. -/
def submissions (course : Nat → Occurrence) : Nat → List Request
  | 0 => []
  | number + 1 => submissions course number ++ (course number).request?.toList

/-- Ordinary occurrences keep a worker serving what is submitted in turn. -/
theorem InTurn.endless {course : Nat → Occurrence}
    (began : InTurn transport start meshId [] [] worker) (lawful : transport.Lawful)
    (fresh : start.results = []) (number : Nat)
    (ordinary : ∀ earlier < number, (course earlier).ordinary = true) :
    ∃ served waiting, served ++ waiting = submissions course number ∧
      InTurn transport start meshId served waiting (worker.endless transport course number) := by
  induction number with
  | zero => exact ⟨[], [], rfl, began⟩
  | succ number inductionHypothesis =>
    obtain ⟨served, waiting, all, inTurn⟩ :=
      inductionHypothesis fun earlier before => ordinary earlier (Nat.lt_succ_of_lt before)
    obtain ⟨servedNow, waitingNow, grown, now⟩ :=
      inTurn.occur lawful fresh (ordinary number (Nat.lt_succ_self number))
    exact ⟨servedNow, waitingNow, by rw [grown, all, submissions], now⟩

end Worker

end MeshLight.Session
