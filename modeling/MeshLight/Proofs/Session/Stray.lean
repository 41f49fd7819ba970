import MeshLight.Proofs.Link.Stray
import MeshLight.Proofs.Session.Conversation
import MeshLight.Proofs.Session.Step
import MeshLight.Proofs.Session.Stepwise

/-!
# Stray reports go unnoticed

A conversation with stray reports is compared with the same conversation without them. Whenever a
procedure that makes its calls in whole steps begins with all completions retired, the two runs stay
the same up to the answers, which are all refusals; and all completions are retired again when it
ends, because a step begins a cycle before its call and another one behind it.
-/

namespace MeshLight.Session

open Link (Access Completion Contact Disturbance Incident Ledger Report Retired Script StrayScript
  Tracker)

/-- The world without the answers to stray reports. -/
def World.quiet (world : World Ledger) : World (List Contact) :=
  { tracker := world.tracker
    transport := world.transport.contacts
    events := world.events
    counts := world.counts }

/-- Each access found an operation that its own completion could complete and no earlier one
could. -/
def Single (contacts : List Contact) : Prop :=
  ∀ earlier asked completion found later,
    contacts = earlier ++ .access asked completion found :: later →
      found.phase = .queued ∧ found.cycle = completion.cycle ∧ Retired earlier found

/-- One more contact, if it is like that. -/
theorem Single.record {contacts : List Contact} (single : Single contacts) {contact : Contact}
    (last : ∀ asked completion found, contact = .access asked completion found →
      found.phase = .queued ∧ found.cycle = completion.cycle ∧ Retired contacts found) :
    Single (contacts ++ [contact]) := by
  intro earlier asked completion found later split
  rcases later.eq_nil_or_concat with empty | ⟨before, final, grown⟩
  · rw [empty] at split
    obtain ⟨same, shown⟩ := List.append_inj' split rfl
    rw [← same]
    exact last asked completion found (List.head_eq_of_cons_eq shown)
  · rw [grown, List.concat_eq_append, ← List.cons_append, ← List.append_assoc] at split
    exact single earlier asked completion found before (List.append_inj' split rfl).1

/-- Nothing that was handed out so far can complete anything: all completions are retired, no stray
report was taken, and each access was the only one that could be completed. -/
structure Settled (world : World Ledger) : Prop where
  retired : Retired world.transport.contacts world.tracker
  refusing : world.transport.Refusing
  single : Single world.transport.contacts

/-- A change of the tracker that takes no cycle back. -/
theorem Settled.withTracker {world : World Ledger} (settled : Settled world) {tracker : Tracker}
    (further : world.tracker.cycle ≤ tracker.cycle) : Settled (world.withTracker tracker) :=
  ⟨settled.retired.mono further, settled.refusing, settled.single⟩

/-- A procedure does the same with stray reports and without them, and leaves all completions
retired. -/
def Unnoticed (script : StrayScript) {Value : Type} (procedure : Procedure Value) : Prop :=
  ∀ world : World Ledger, Settled world →
    Settled (procedure.finish script.transport world).2 ∧
      procedure.finish script.quiet.transport world.quiet =
        ((procedure.finish script.transport world).1,
          (procedure.finish script.transport world).2.quiet)

namespace Unnoticed

variable (script : StrayScript)

/-- An action that only changes the tracker and takes no cycle back. -/
theorem of_tracker {action : Action} (change : Tracker → action.Reply × Tracker)
    (performs : ∀ {State : Type} (transport : Link.Transport State) (world : World State),
      action.perform transport world = world.onTracker change)
    (further : ∀ tracker, tracker.cycle ≤ (change tracker).2.cycle) :
    Unnoticed script (Procedure.of action) := by
  intro world settled
  have run {State : Type} (transport : Link.Transport State) (world : World State) :
      (Procedure.of action).finish transport world = world.onTracker change :=
    performs transport world
  rw [run, run]
  exact ⟨settled.withTracker (further _), rfl⟩

/-- An action that only adds to the reports. -/
theorem of_report {action : Action} (reply : action.Reply) (events : List Report.Event)
    (counts : List Report.Count)
    (performs : ∀ {State : Type} (transport : Link.Transport State) (world : World State),
      action.perform transport world =
        (reply, { world with
          events := world.events ++ events
          counts := world.counts ++ counts })) :
    Unnoticed script (Procedure.of action) := by
  intro world settled
  have run {State : Type} (transport : Link.Transport State) (world : World State) :
      (Procedure.of action).finish transport world =
        (reply, { world with
          events := world.events ++ events
          counts := world.counts ++ counts }) :=
    performs transport world
  rw [run, run]
  exact ⟨⟨settled.retired, settled.refusing, settled.single⟩, rfl⟩

/-- A request to drop the link: all its stray reports are refused. -/
theorem drop : Unnoticed script Procedure.disconnect := by
  intro world settled
  obtain ⟨left, befallen, kept, refusing⟩ := settled.retired.befallAll
    ((script world.transport.contacts.length).before ++
      (script world.transport.contacts.length).after)
  have run : Procedure.disconnect.finish script.transport world =
      ((), { world with
        tracker := world.tracker.disturb (script.quiet world.transport.contacts.length).disturbances
        transport := left.record (.disconnect world.tracker) }) := by
    simp only [Procedure.finish_disconnect, World.onTransport, StrayScript.transport, befallen,
      List.filterMap_append]
    rfl
  rw [run]
  refine ⟨⟨?_, refusing settled.refusing, ?_⟩, ?_⟩
  · have still : Retired left.contacts (world.tracker.disturb
        (script.quiet world.transport.contacts.length).disturbances) :=
      kept ▸ settled.retired.mono (Nat.le_of_eq (Tracker.disturb_cycle _ _).symm)
    exact still.record_disconnect world.tracker
  · exact Single.record (kept ▸ settled.single) fun _ _ _ access => by cases access
  · simp only [World.quiet, Ledger.record, kept]
    rfl

/-- A harmless action. -/
theorem action (action : Action) (harmless : action.harmless = true) :
    Unnoticed script (Procedure.of action) := by
  cases action with
  | reset =>
    exact of_tracker script (fun tracker => ((), tracker.reset)) (fun _ _ => rfl) fun _ =>
      Nat.le_succ _
  | setPhase phase =>
    exact of_tracker script (fun tracker => ((), tracker.setPhase phase)) (fun _ _ => rfl) fun _ =>
      Nat.le_refl _
  | lossCount => exact fun _ settled => ⟨settled, rfl⟩
  | takeResponse =>
    exact of_tracker script Tracker.takeResponse (fun _ _ => rfl) fun _ => Nat.le_refl _
  | takeError =>
    exact of_tracker script Tracker.takeError (fun _ _ => rfl) fun _ => Nat.le_refl _
  | sessionKey => exact fun _ settled => ⟨settled, rfl⟩
  | clearKey =>
    exact of_tracker script Tracker.clearKey (fun _ _ => rfl) fun _ => Nat.le_refl _
  | isCancelled => exact fun _ settled => ⟨settled, rfl⟩
  | emit event =>
    exact of_report script () [event] [] fun _ _ => by simp [Action.perform, World.emit]
  | count counted =>
    exact of_report script () [] [counted] fun _ _ => by simp [Action.perform, World.count]
  | queue => cases harmless
  | installKey key epoch => cases harmless
  | write characteristic value completion => cases harmless
  | read characteristic completion => cases harmless
  | callReturn => cases harmless
  | disconnect => cases harmless

/-- The installation of a key. -/
theorem installKey (key : SessionKey) (epoch : Nat) :
    Unnoticed script (Procedure.installKey key epoch) := by
  refine of_tracker script (Tracker.installKey key epoch) (fun _ _ => rfl) fun tracker => ?_
  unfold Tracker.installKey
  split <;> exact Nat.le_refl _

variable {script} in
/-- Procedures one after the other. -/
theorem bind {First Second : Type} {first : Procedure First} {second : First → Procedure Second}
    (begins : Unnoticed script first) (continues : ∀ value, Unnoticed script (second value)) :
    Unnoticed script (first >>= second) := by
  intro world settled
  obtain ⟨middle, same⟩ := begins world settled
  obtain ⟨later, sameOn⟩ := continues _ _ middle
  rw [Procedure.finish_bind, Procedure.finish_bind, same]
  exact ⟨later, sameOn⟩

/-- Dropping the key and the link. -/
theorem disconnect : Unnoticed script Controller.disconnect := by
  refine (action script .clearKey rfl).bind fun had => (drop script).bind fun _ => ?_
  split
  · exact (action script (.count .disconnect) rfl).bind fun _ =>
      action script (.emit .disconnected) rfl
  · exact fun _ settled => ⟨settled, rfl⟩

variable {world : World Ledger}

/-- The call of a step: only the stray reports through its own completion could be taken, and that
one is not kept yet. -/
theorem called (settled : Settled world) (access : Access) :
    ∃ ledger, Step.called script.transport access world =
        { world with
          tracker := Step.left (script.quiet world.transport.contacts.length) world.tracker
          transport := ledger } ∧
      ledger.contacts = world.transport.contacts ++
        [.access access (Step.issued world.tracker) (Step.handed world.tracker)] ∧
      ledger.Refusing := by
  have began : world.tracker.cycle ≤ (Step.handed world.tracker).cycle := Nat.le_succ _
  obtain ⟨left, applied, kept, refusing⟩ :=
    (settled.retired.mono began).apply (Step.issued world.tracker)
      (script world.transport.contacts.length)
  refine ⟨left.record (.access access (Step.issued world.tracker) (Step.handed world.tracker)), ?_,
    by rw [Ledger.record, kept], refusing settled.refusing⟩
  simp only [Step.called, StrayScript.take_transport, World.onTransport, World.withTracker,
    StrayScript.meet, applied]
  rfl

/-- A step retires its own completion when it ends. -/
theorem closed (settled : Settled world) (step : String) (targets : List Link.Phase)
    (access : Access) :
    Settled (Step.closed step targets (Step.called script.transport access world)) ∧
      (Step.closed step targets (Step.called script.transport access world)).quiet =
        Step.closed step targets (Step.called script.quiet.transport access world.quiet) := by
  obtain ⟨ledger, reached, contacts, refusing⟩ := called script settled access
  obtain ⟨cycle, -⟩ := (script.quiet world.transport.contacts.length).apply_frame
    (Step.issued world.tracker) (Step.handed world.tracker)
  have begun : (Step.handed world.tracker).cycle = world.tracker.cycle + 1 := rfl
  have ended : world.tracker.cycle + 1 <
      (Step.left (script.quiet world.transport.contacts.length) world.tracker).reset.cycle := by
    rw [Tracker.reset, cycle, begun]
    exact Nat.lt_succ_self _
  rw [reached]
  refine ⟨⟨?_, refusing, ?_⟩, ?_⟩
  · simp only [Step.closed, contacts]
    exact (settled.retired.mono (by omega)).record access _ _ ended
  · simp only [Step.closed, contacts]
    refine settled.single.record ?_
    rintro _ _ _ ⟨⟩
    exact ⟨rfl, rfl, settled.retired.mono (Nat.le_succ _)⟩
  · rw [Step.called_script]
    simp only [Step.closed, World.quiet, contacts]
    rfl

/-- A step that writes. -/
theorem write (bound : Nat) (step : String) (characteristic : Link.Characteristic)
    (value : Bytes) : Unnoticed script (Step.write bound step characteristic value).run := by
  intro world settled
  obtain ⟨after, same⟩ := closed script settled step [.sent, .fail]
    (.write characteristic value)
  obtain ⟨ledger, reached, -⟩ := called script settled (.write characteristic value)
  rw [Step.finish_write, Step.finish_write, same]
  refine ⟨after, ?_⟩
  rw [reached, Step.called_script]
  rfl

/-- A step that reads. -/
theorem read (bound : Nat) (step : String) (characteristic : Link.Characteristic) :
    Unnoticed script (Step.read bound step characteristic).run := by
  intro world settled
  obtain ⟨after, same⟩ := closed script settled step [.success, .fail]
    (.read characteristic)
  obtain ⟨ledger, reached, -⟩ := called script settled (.read characteristic)
  rw [Step.finish_read, Step.finish_read, same]
  refine ⟨after, ?_⟩
  rw [reached, Step.called_script]
  rfl

/-- Whatever makes its calls in whole steps does not notice stray reports. -/
theorem of_stepwise {permission : Permission} {Value : Type} {procedure : Procedure Value}
    (stepwise : Stepwise permission procedure) : Unnoticed script procedure := by
  induction stepwise with
  | done value => exact fun _ settled => ⟨settled, rfl⟩
  | action action harmless => exact Unnoticed.action script action harmless
  | installKey key epoch _ => exact installKey script key epoch
  | disconnect => exact disconnect script
  | write bound step characteristic value _ => exact write script bound step characteristic value
  | read bound step characteristic _ => exact read script bound step characteristic
  | bind _ _ begins continues => exact begins.bind continues

end Unnoticed

/-! ## Whole conversations -/

/-- The order without stray reports, if anything is left of it. -/
def Order.quiet? : Order Incident → Option (Order Disturbance)
  | .operation meshId request => some (.operation meshId request)
  | .between incident => incident.disturbance?.map .between

namespace Conversation

/-- The conversation without the answers to stray reports. -/
def quiet (conversation : Conversation Ledger) : Conversation (List Contact) :=
  { controller := conversation.controller
    world := conversation.world.quiet
    results := conversation.results }

variable (script : StrayScript) {conversation : Conversation Ledger}

/-- An order is carried out alike with stray reports and without them. -/
theorem obey_unnoticed (settled : Settled conversation.world) (order : Order Incident) :
    Settled (conversation.obey script.transport Incident.befall order).world ∧
      (conversation.obey script.transport Incident.befall order).quiet =
        conversation.quiet.run script.quiet.transport disturbed order.quiet?.toList := by
  cases order with
  | operation meshId request =>
    obtain ⟨after, same⟩ := Unnoticed.of_stepwise script
      (conversation.controller.perform_stepwise meshId request) conversation.world settled
    refine ⟨after, ?_⟩
    simp only [Order.quiet?, Option.toList, run_cons, run_nil, obey, quiet, same]
  | between incident =>
    obtain ⟨left, befallen, kept, refusing⟩ := settled.retired.befall incident
    have ends : conversation.obey script.transport Incident.befall (.between incident) =
        { conversation with
          world := { conversation.world with
            tracker := conversation.world.tracker.disturb incident.disturbance?.toList
            transport := left } } := by
      simp only [obey, World.onTransport, befallen]
    rw [ends]
    refine ⟨⟨?_, refusing settled.refusing, ?_⟩, ?_⟩
    · rw [kept]
      exact settled.retired.mono (Nat.le_of_eq (Tracker.disturb_cycle _ _).symm)
    · rw [kept]
      exact settled.single
    · cases incident with
      | disturbance content =>
        simp only [quiet, World.quiet, kept]
        rfl
      | stray number report =>
        simp only [quiet, World.quiet, kept]
        rfl

/-- Orders are carried out alike with stray reports and without them. -/
theorem run_unnoticed (settled : Settled conversation.world) (orders : List (Order Incident)) :
    Settled (conversation.run script.transport Incident.befall orders).world ∧
      (conversation.run script.transport Incident.befall orders).quiet =
        conversation.quiet.run script.quiet.transport disturbed
          (orders.filterMap Order.quiet?) := by
  induction orders generalizing conversation with
  | nil => exact ⟨settled, rfl⟩
  | cons order orders inductionHypothesis =>
    obtain ⟨middle, same⟩ := obey_unnoticed script settled order
    obtain ⟨after, sameOn⟩ := inductionHypothesis middle
    refine ⟨after, ?_⟩
    rw [run_cons, sameOn, same]
    cases kept : order.quiet? with
    | none => simp [kept]
    | some plain => simp [kept]

/-- A conversation begins with nothing handed out. -/
theorem start_settled (controller : Controller) :
    Settled (start controller ({} : Ledger)).world := by
  refine ⟨nofun, nofun, ?_⟩
  intro earlier asked completion found later impossible
  simp [start] at impossible

end Conversation

/-- One operation is outstanding at a time, and completions of earlier ones come to nothing. For
every script with stray reports and at every point of every conversation:

Each access found a tracker that its own completion can change, whatever is reported through it, and
that no completion handed out before can. Between operations no completion at all can change the
tracker, and nothing is left over in it. Every stray report so far was refused, and results,
contacts, events, counts, tracker and controller are those of the conversation without them. -/
theorem strays_unnoticed (script : StrayScript) (controller : Controller)
    (orders : List (Order Incident)) :
    let reached :=
      (Conversation.start controller {}).run script.transport Incident.befall orders
    let quiet := (Conversation.start controller []).run script.quiet.transport disturbed
      (orders.filterMap Order.quiet?)
    let contacts := reached.world.transport.contacts
    let dead (tracker : Tracker) (completion : Completion) :=
      ∀ report, tracker.complete completion report = (false, tracker)
    (∀ earlier asked completion found later,
      contacts = earlier ++ .access asked completion found :: later →
        (∀ report, (found.complete completion report).1 = true ∧
          (found.complete completion report).2 ≠ found) ∧
        ∀ other ∈ earlier.filterMap Contact.completion?, dead found other) ∧
    (∀ completion ∈ contacts.filterMap Contact.completion?,
      dead reached.world.tracker completion) ∧
    Idle reached.world.tracker ∧
    (∀ answer ∈ reached.world.transport.answers, answer = false) ∧
    reached.results = quiet.results ∧ contacts = quiet.world.transport ∧
    reached.world.events = quiet.world.events ∧ reached.world.counts = quiet.world.counts ∧
    reached.world.tracker = quiet.world.tracker ∧ reached.controller = quiet.controller := by
  intro reached quiet contacts dead
  obtain ⟨settled, same⟩ := Conversation.run_unnoticed script
    (Conversation.start_settled controller) orders
  have same : reached.quiet = quiet := same
  have orderly : quiet.Orderly :=
    Conversation.run_orderly (Conversation.start_orderly controller []) _
  have deadOf (some : List Contact) (tracker : Tracker) (retired : Retired some tracker) :
      ∀ completion ∈ some.filterMap Contact.completion?, dead tracker completion := by
    intro completion among report
    obtain ⟨contact, made, handed⟩ := List.mem_filterMap.mp among
    exact Tracker.complete_retired (retired contact made completion handed) report
  refine ⟨?_, deadOf contacts _ settled.retired, ?_, settled.refusing, ?_⟩
  · intro earlier asked completion found later split
    obtain ⟨queued, cycle, retired⟩ :=
      settled.single earlier asked completion found later split
    refine ⟨fun report => ?_, deadOf earlier found retired⟩
    have moved : report.phase ≠ found.phase := by
      rw [queued]
      cases report <;> simp [Report.phase]
    have taken : found.complete completion report =
        (true, { found with phase := report.phase, response := report.response,
                            error := report.error }) := by
      cases report <;> simp [Tracker.complete, Report.admitted, queued, cycle]
    rw [taken]
    exact ⟨rfl, fun unchanged => moved (congrArg Tracker.phase unchanged)⟩
  · have tracker : reached.world.tracker = quiet.world.tracker := by rw [← same]; rfl
    rw [tracker]
    exact orderly.idle
  · rw [← same]
    exact ⟨rfl, rfl, rfl, rfl, rfl, rfl⟩

end MeshLight.Session
