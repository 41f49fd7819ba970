import MeshLight.Proofs.Session.Numbering

/-!
# Refusals leave no trace

A command, a status or a move without a session is refused. The refusal ends in the same policy as
any other failure, so it reports, and it may begin a new cycle; but it asks the transport for
nothing and draws nothing, and cycles are only numbered. A run from which such requests are struck
out is therefore the same run: every other errand finds the same key, gives the same result, makes
the same calls with the same bytes and leaves the controller with the same randomness.
-/

namespace MeshLight.Session

open Link (Access Contact Disturbance Incident Ledger StrayScript Tracker Transport)

/-! ## One refusal -/

/-- Pairing needs no session; everything else does. -/
def Request.needsSession : Request → Bool
  | .pair => false
  | _ => true

section Untouched

variable {State : Type}

/-- Nothing but the number of the cycle and the reports changed. -/
structure Untouched (before after : World State) : Prop where
  transport : after.transport = before.transport
  tracker : ∃ cycle, after.tracker = before.tracker.renumber cycle

/-- The key is as it was. -/
theorem Untouched.key {before after : World State} (untouched : Untouched before after) :
    after.tracker.key = before.tracker.key := by
  obtain ⟨cycle, renumbered⟩ := untouched.tracker
  rw [renumbered]
  rfl

/-- Where nothing was left over, nothing is. -/
theorem Untouched.idle {before after : World State} (untouched : Untouched before after)
    (idle : Idle before.tracker) : Idle after.tracker := by
  obtain ⟨cycle, renumbered⟩ := untouched.tracker
  rw [renumbered]
  exact ⟨idle.phase, idle.response, idle.error⟩

/-- A tracker with nothing left over begins a cycle like the last one. -/
theorem Idle.reset_eq {tracker : Tracker} (idle : Idle tracker) :
    tracker.reset = tracker.renumber (tracker.cycle + 1) := by
  obtain ⟨phase, response, error⟩ := idle
  simp [Tracker.reset, Tracker.renumber, phase, response, error]

namespace Controller

variable (transport : Transport State) (controller : Controller) (world : World State)

/-- Giving up over a failure that leaves the link alone begins a new cycle at most. -/
theorem abort_untouched (failure : Failure) (kept : failure.requiresDisconnect = false)
    (idle : Idle world.tracker) : Untouched world ((abort failure).finish transport world).2 := by
  cases mark : world.tracker.cancelled with
  | true =>
    simp only [abort, Procedure.finish_bind, Procedure.finish_isCancelled, mark, if_true,
      Procedure.finish_pure]
    exact ⟨rfl, world.tracker.cycle, rfl⟩
  | false =>
    simp only [abort, Procedure.finish_bind, Procedure.finish_isCancelled, mark, kept,
      Bool.false_eq_true, if_false, Procedure.finish_setPhase, Procedure.finish_reset]
    exact ⟨rfl, world.tracker.cycle + 1, idle.reset_eq⟩

/-- Without a key a request that needs a session is refused on any transport: the controller keeps
all that it has, and nothing is touched. -/
theorem perform_refused (meshId : UInt16) {request : Request} (needs : request.needsSession = true)
    (absent : world.tracker.key = none) (idle : Idle world.tracker) :
    ∃ later, (controller.perform meshId request).finish transport world =
        ((.error (.notEstablished controller.address), controller), later) ∧
      Untouched world later := by
  cases request with
  | pair => cases needs
  | light command =>
    have touched := abort_untouched transport
      ((world.count (.commandFailed "not_established")).emit
        (.commandFailed command.opcode "not_established"))
      (.notEstablished controller.address) rfl idle
    refine ⟨_, ?_, touched.transport, touched.tracker⟩
    simp only [perform, send, deliver, Procedure.finish_bind, finish_requireKey, absent,
      Option.elim, Procedure.finish_pure, Procedure.finish_count, Procedure.finish_emit]
    rfl
  | status =>
    have touched := abort_untouched transport world (.notEstablished controller.address) rfl idle
    refine ⟨_, ?_, touched.transport, touched.tracker⟩
    simp only [perform, readStatus, fetchStatus, Procedure.finish_bind, Procedure.finish_attempt,
      finish_requireKey, absent, Option.elim, Procedure.finish_pure]
    rfl
  | migrate credentials longTermKey =>
    refine ⟨world, ?_, rfl, world.tracker.cycle, rfl⟩
    simp only [perform, migrate, Procedure.finish_bind, finish_requireKey, absent, Option.elim,
      Procedure.finish_pure]
    rfl

/-- A pairing for a ready link makes its calls in whole steps. -/
theorem greet_stepwise (controller : Controller) : Stepwise .all controller.greet := by
  refine (Stepwise.action .sessionKey rfl).bind fun held => ?_
  cases held with
  | some key => exact .done _
  | none =>
    exact (controller.pair_stepwise (fun _ => True.intro) True.intro True.intro True.intro).bind
      fun _ => .done _

end Controller

end Untouched

/-! ## Runs with pairings for a ready link -/

/-- The next thing to happen to a controller: an order of a conversation, or a ready link, for which
a pairing is made unless there is a session. -/
inductive Errand (Incident : Type) where
  | order (content : Order Incident)
  | greet

namespace Conversation

variable {State Incident : Type}

/-- Runs an errand. -/
def attend (transport : Transport State) (befall : Incident → State × Tracker → State × Tracker)
    (conversation : Conversation State) : Errand Incident → Conversation State
  | .order order => conversation.obey transport befall order
  | .greet =>
    let ((result, controller), world) :=
      conversation.controller.greet.finish transport conversation.world
    { controller, world, results := conversation.results ++ [result] }

/-- Runs errands, first one first. -/
def attendAll (transport : Transport State) (befall : Incident → State × Tracker → State × Tracker)
    (conversation : Conversation State) (errands : List (Errand Incident)) : Conversation State :=
  errands.foldl (attend transport befall) conversation

/-- A ready link changes nothing but the results if there is a session, and is a pairing
otherwise. -/
theorem attend_greet (transport : Transport State)
    (befall : Incident → State × Tracker → State × Tracker) (conversation : Conversation State)
    (meshId : UInt16) :
    conversation.attend transport befall .greet =
      if conversation.world.tracker.key.isSome then
        { conversation with results := conversation.results ++ [.ok .done] }
      else conversation.attend transport befall (.order (.operation meshId .pair)) := by
  cases held : conversation.world.tracker.key with
  | some key =>
    simp only [attend, Controller.greet, Procedure.finish_bind, Procedure.finish_sessionKey, held,
      Procedure.finish_pure, Option.isSome_some, if_true]
  | none =>
    simp only [attend, obey, Controller.greet, Controller.perform, Procedure.finish_bind,
      Procedure.finish_sessionKey, held, Option.isSome_none, Bool.false_eq_true, if_false]

end Conversation

/-- What is written down about an errand: the key that it found, its result if it has one, what it
asked the transport for, with all bytes, and the controller, with its randomness, and the key behind
it. Among the calls nothing stands for dropping the link. -/
structure Entry where
  errand : Errand Incident
  found : Option SessionKey
  results : List Result
  calls : List (Option Access)
  controller : Controller
  key : Option SessionKey

/-- The errand was a request that needs a session, and there was none. -/
def Entry.Refused (entry : Entry) : Prop :=
  entry.found = none ∧ ∃ meshId request,
    entry.errand = .order (.operation meshId request) ∧ request.needsSession = true

/-- The second account is the first one without some of its refusals. -/
inductive Struck : List Entry → List Entry → Prop where
  | nil : Struck [] []
  | keep (entry : Entry) {entries left : List Entry} (rest : Struck entries left) :
    Struck (entry :: entries) (entry :: left)
  | strike (entry : Entry) (refused : entry.Refused) {entries left : List Entry}
    (rest : Struck entries left) : Struck (entry :: entries) left

namespace Conversation

variable (script : StrayScript)

/-- What is written down about the next errand. -/
def entry (conversation : Conversation Ledger) (errand : Errand Incident) : Entry :=
  let next := conversation.attend script.transport Incident.befall errand
  { errand
    found := conversation.world.tracker.key
    results := next.results.drop conversation.results.length
    calls := (next.world.transport.contacts.drop
      conversation.world.transport.contacts.length).map Contact.access?
    controller := next.controller
    key := next.world.tracker.key }

/-- What is written down about errands, first one first. -/
def account : Conversation Ledger → List (Errand Incident) → List Entry
  | _, [] => []
  | conversation, errand :: errands =>
    conversation.entry script errand ::
      account (conversation.attend script.transport Incident.befall errand) errands

/-- Two conversations at points from which they go on alike: the controllers are the same, the
worlds match, and nothing is left over. -/
structure Parallel (first second : Conversation Ledger) : Prop where
  controller : second.controller = first.controller
  matched : Matched first.world second.world
  orderly : first.quiet.Orderly

variable {first second : Conversation Ledger}

/-- An errand leaves nothing over, and all completions retired. -/
theorem attend_orderly {conversation : Conversation Ledger} (settled : Settled conversation.world)
    (orderly : conversation.quiet.Orderly) (errand : Errand Incident) :
    Settled (conversation.attend script.transport Incident.befall errand).world ∧
      (conversation.attend script.transport Incident.befall errand).quiet.Orderly := by
  have ordered (order : Order Incident) :
      Settled (conversation.obey script.transport Incident.befall order).world ∧
        (conversation.obey script.transport Incident.befall order).quiet.Orderly := by
    obtain ⟨after, same⟩ := obey_unnoticed script settled order
    exact ⟨after, same ▸ run_orderly orderly _⟩
  cases errand with
  | order order => exact ordered order
  | greet =>
    rw [attend_greet script.transport Incident.befall conversation 0]
    split
    · exact ⟨settled, orderly.idle, orderly.torn⟩
    · exact ordered _

/-- So do any errands. -/
theorem attendAll_orderly {conversation : Conversation Ledger}
    (settled : Settled conversation.world) (orderly : conversation.quiet.Orderly)
    (errands : List (Errand Incident)) :
    Settled (conversation.attendAll script.transport Incident.befall errands).world ∧
      (conversation.attendAll script.transport Incident.befall errands).quiet.Orderly := by
  induction errands generalizing conversation with
  | nil => exact ⟨settled, orderly⟩
  | cons errand errands inductionHypothesis =>
    obtain ⟨after, kept⟩ := attend_orderly script settled orderly errand
    exact inductionHypothesis after kept

/-- An incident leaves worlds matched that were. -/
theorem Parallel.befall (parallel : Parallel first second) (incident : Incident) :
    Matched (first.obey script.transport Incident.befall (.between incident)).world
      (second.obey script.transport Incident.befall (.between incident)).world := by
  obtain ⟨left, sameLeft⟩ := obey_unnoticed script parallel.matched.left (.between incident)
  obtain ⟨right, sameRight⟩ := obey_unnoticed script parallel.matched.right (.between incident)
  have alike := parallel.matched.alike
  refine ⟨left, right, ?_⟩
  change Alike (first.obey script.transport Incident.befall (.between incident)).quiet.world
    (second.obey script.transport Incident.befall (.between incident)).quiet.world
  rw [sameLeft, sameRight]
  cases incident with
  | disturbance content =>
    obtain ⟨cycle, renumbered⟩ := alike.tracker
    have after : content.apply second.world.quiet.tracker =
        (content.apply first.world.quiet.tracker).renumber cycle :=
      renumbered ▸ content.apply_renumber first.world.quiet.tracker cycle
    exact ⟨⟨cycle, after⟩, alike.calls⟩
  | stray number report => exact alike

/-- An errand gives the same results in both and leaves the same controller and matched worlds. -/
theorem Parallel.same (parallel : Parallel first second) (errand : Errand Incident) :
    ∃ results : List Result,
      (first.attend script.transport Incident.befall errand).results = first.results ++ results ∧
      (second.attend script.transport Incident.befall errand).results = second.results ++ results ∧
      (second.attend script.transport Incident.befall errand).controller =
        (first.attend script.transport Incident.befall errand).controller ∧
      Matched (first.attend script.transport Incident.befall errand).world
        (second.attend script.transport Incident.befall errand).world := by
  have finished {procedure : Procedure (Result × Controller)}
      (stepwise : Stepwise .all procedure) :=
    parallel.matched.finish script stepwise
  cases errand with
  | order order =>
    cases order with
    | operation meshId request =>
      obtain ⟨same, matched⟩ := finished (first.controller.perform_stepwise meshId request)
      simp only [attend, obey, parallel.controller]
      exact ⟨[_], rfl, congrArg (fun ended => second.results ++ [ended.1]) same,
        congrArg Prod.snd same, matched⟩
    | between incident =>
      exact ⟨[], (List.append_nil _).symm, (List.append_nil _).symm, parallel.controller,
        parallel.befall script incident⟩
  | greet =>
    obtain ⟨same, matched⟩ := finished first.controller.greet_stepwise
    simp only [attend, parallel.controller]
    exact ⟨[_], rfl, congrArg (fun ended => second.results ++ [ended.1]) same,
      congrArg Prod.snd same, matched⟩

/-- Errands go on alike: they find the same, do the same and leave the same. -/
theorem Parallel.attend (parallel : Parallel first second) (errand : Errand Incident) :
    second.entry script errand = first.entry script errand ∧
      Parallel (first.attend script.transport Incident.befall errand)
        (second.attend script.transport Incident.befall errand) := by
  obtain ⟨results, left, right, controller, matched⟩ := parallel.same script errand
  have key {first second : World Ledger} (matched : Matched first second) :
      second.tracker.key = first.tracker.key := by
    obtain ⟨cycle, renumbered⟩ := matched.alike.tracker
    have same := congrArg Tracker.key renumbered
    exact same
  have before := parallel.matched.alike
  have calls :
      ((second.attend script.transport Incident.befall errand).world.transport.contacts.drop
        second.world.transport.contacts.length).map Contact.access? =
      ((first.attend script.transport Incident.befall errand).world.transport.contacts.drop
        first.world.transport.contacts.length).map Contact.access? := by
    rw [List.map_drop, List.map_drop]
    exact before.length ▸ congrArg (List.drop _) matched.alike.calls
  refine ⟨?_, controller, matched, (attend_orderly script parallel.matched.left parallel.orderly
    errand).2⟩
  simp only [entry, left, right, controller, calls, List.drop_left, key matched,
    key parallel.matched]

/-- A refusal may be left out on one side. -/
theorem Parallel.refused (parallel : Parallel first second) {errand : Errand Incident}
    (refused : (first.entry script errand).Refused) :
    Parallel (first.attend script.transport Incident.befall errand) second := by
  obtain ⟨absent, meshId, request, rfl, needs⟩ := refused
  obtain ⟨settled, orderly⟩ := attend_orderly script parallel.matched.left parallel.orderly
    (.order (.operation meshId request))
  obtain ⟨later, finished, transport, cycle, renumbered⟩ :=
    first.controller.perform_refused script.transport first.world meshId needs absent
      parallel.orderly.idle
  have untouched : first.attend script.transport Incident.befall
      (.order (.operation meshId request)) =
        { controller := first.controller, world := later,
          results := first.results ++ [.error (.notEstablished first.controller.address)] } := by
    simp only [Conversation.attend, obey, finished]
  rw [untouched] at settled orderly ⊢
  have alike : Alike first.world.quiet later.quiet :=
    ⟨⟨cycle, renumbered⟩, congrArg (fun ledger => ledger.contacts.map Contact.access?) transport⟩
  exact ⟨parallel.controller, ⟨settled, parallel.matched.right,
    alike.euclidean parallel.matched.alike⟩, orderly⟩

/-- An account without some of its refusals is the account of the errands without them. -/
theorem Parallel.account (parallel : Parallel first second) {errands : List (Errand Incident)}
    {left : List Entry} (struck : Struck (first.account script errands) left) :
    second.account script (left.map Entry.errand) = left := by
  -- Along the errands of the first run; the second one waits while a refusal is struck out.
  induction errands generalizing first second left with
  | nil =>
    cases struck
    rfl
  | cons errand errands inductionHypothesis =>
    cases struck with
    | keep _ rest =>
      obtain ⟨same, after⟩ := parallel.attend script errand
      rw [List.map_cons, Conversation.account]
      exact congr (congrArg List.cons same) (inductionHypothesis after rest)
    | strike _ refused rest => exact inductionHypothesis (parallel.refused script refused) rest

end Conversation

/-- Requests that are refused for want of a session leave no trace.

At every point of every run at which there is no key, a request that needs one is refused; the
controller keeps all that it has, the transport is not asked for anything, and the tracker is left
with nothing under way and without a key. And if any such requests are struck out of a run, all
other errands have the accounts that they had. -/
theorem refusals_traceless (script : StrayScript) (controller : Controller)
    (errands : List (Errand Incident)) :
    let start := Conversation.start controller ({} : Ledger)
    let reached := start.attendAll script.transport Incident.befall errands
    (∀ meshId request, Request.needsSession request = true → reached.world.tracker.key = none →
      ∃ later, (reached.controller.perform meshId request).finish script.transport reached.world =
          ((.error (.notEstablished reached.controller.address), reached.controller), later) ∧
        later.transport = reached.world.transport ∧ Idle later.tracker ∧
        later.tracker.key = none) ∧
    ∀ left, Struck (start.account script errands) left →
      start.account script (left.map Entry.errand) = left := by
  intro start reached
  have orderly : start.quiet.Orderly := Conversation.start_orderly controller []
  have settled : Settled start.world := Conversation.start_settled controller
  refine ⟨fun meshId request needs absent => ?_, fun left struck => ?_⟩
  · have ended : reached.quiet.Orderly :=
      (Conversation.attendAll_orderly script settled orderly errands).2
    obtain ⟨later, finished, untouched⟩ :=
      reached.controller.perform_refused script.transport reached.world meshId needs absent
        ended.idle
    exact ⟨later, finished, untouched.transport, untouched.idle ended.idle,
      untouched.key.trans absent⟩
  · have parallel : Conversation.Parallel start start :=
      ⟨rfl, ⟨settled, settled, .refl _⟩, orderly⟩
    exact parallel.account script struck

end MeshLight.Session
