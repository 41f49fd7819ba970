import MeshLight.Proofs.Session.Balance
import MeshLight.Proofs.Session.Course

/-!
# Events and counters account for every operation

A worker keeps no record of what it carried out, and nobody holds a ticket for a pairing that a
ready link asked for, so a docket is kept next to it. Whatever the order of steps, requests and
reports of the link, what was told so far is what the operations on the docket tell, one after the
other; and every dropped key is reported and counted once, by whoever dropped it. During an
operation the tree of what is left of it says what it is still going to tell.
-/

namespace MeshLight.Session

open Link (ConnectionEvent Contact Operation Script Tracker Transport)

/-! ## Courses with a docket -/

/-- The occurrence brings a key from outside. -/
def Occurrence.installs : Occurrence → Bool
  | .share (.installKey _ _) _ => true
  | _ => false

namespace Worker

variable {State : Type}

/-- The worker is between two operations, or has ended. -/
def isFree (worker : Worker State) : Bool :=
  match worker.activity with
  | .busy .. => false
  | _ => true

/-- A message leads to an operation unless it is to stop the worker, which a torn tracker does
too. -/
def accepts (message : Message) (worker : Worker State) : Bool :=
  match message with
  | .shutdown => false
  | _ => !worker.tracker.cancelled

/-- The message that the worker would begin to carry out in a step. -/
def beginning? (worker : Worker State) : Option Message :=
  match worker.activity, worker.queue with
  | .idle, message :: _ => if worker.accepts message then some message else none
  | _, _ => none

/-- The result that the worker would leave in a step. -/
def ending? (worker : Worker State) : Option Result :=
  match worker.activity with
  | .busy _ (.done (result, _)) _ => some result
  | _ => none

/-- The docket after an occurrence. -/
def record (worker : Worker State) (occurrence : Occurrence) (docket : Docket) : Docket :=
  match occurrence with
  | .step =>
    ⟨docket.begun ++ worker.beginning?.toList, docket.ended ++ worker.ending?.toList⟩
  | _ => docket

/-- The docket after occurrences, first one first. -/
def docket (transport : Transport State) (worker : Worker State) :
    List Occurrence → Docket → Docket
  | [], docket => docket
  | occurrence :: occurrences, docket =>
    (worker.occur transport occurrence).docket transport occurrences
      (worker.record occurrence docket)

/-- Between two operations the docket accounts for what was told, and the session is settled. During
an operation what it is going to tell is missing. -/
def Kept (worker : Worker State) (docket : Docket) : Prop :=
  match worker.activity with
  | .busy _ rest _ =>
    ∃ begun message telling standing, docket.begun = begun ++ [message] ∧
      Accounted ⟨begun, docket.ended⟩ telling ∧ Standing.Stands worker.world standing ∧
      rest.Tells
        (fun ended later told => later.Rests ∧ ∃ events counts,
          message.Told ended.1 events counts ∧ told = telling.also events counts)
        standing worker.world.told
  | _ => Accounted docket worker.world.told ∧ Standing.settled.Stands worker.world

section Still

variable {worker later : Worker State} {docket : Docket}

/-- What others do keeps the docket, if they tell nothing but dropped keys. -/
theorem Kept.still (kept : worker.Kept docket) (activity : later.activity = worker.activity)
    (told : later.world.told = worker.world.told)
    (stands : ∀ standing : Standing, standing.Stands worker.world → standing.Stands later.world) :
    later.Kept docket := by
  unfold Kept at kept ⊢
  rw [activity, told]
  split
  · rename_i ticket rest spent busy
    rw [busy] at kept
    obtain ⟨begun, message, telling, standing, same, accounted, before, tells⟩ := kept
    exact ⟨begun, message, telling, standing, same, accounted, stands standing before, tells⟩
  · rename_i free
    split at kept
    · rename_i ticket rest spent busy
      exact absurd busy (free ticket rest spent)
    · exact ⟨kept.1, stands _ kept.2⟩

/-- The same, if they tell nothing at all and bring no key. -/
theorem Kept.quiet (kept : worker.Kept docket) (activity : later.activity = worker.activity)
    (events : later.world.events = worker.world.events)
    (counts : later.world.counts = worker.world.counts)
    (key : later.tracker.key = worker.tracker.key ∨ later.tracker.key = none) :
    later.Kept docket :=
  kept.still activity (by simp [World.told, events, counts]) fun _ stands =>
    stands.unmoved ⟨by simp [World.sessions, events], by simp [World.drops, events],
      by simp [World.disconnects, counts], by simp [World.latest, events], key⟩

/-- A message that is put into the queue changes nothing that is on the docket. -/
theorem Kept.enqueue (kept : worker.Kept docket) (message : Message) :
    (worker.enqueue message).Kept docket := by
  unfold Worker.enqueue
  split
  · exact kept
  · exact kept.quiet rfl rfl rfl (.inl rfl)

/-- A lost link takes the key. -/
theorem linkLost_key (tracker : Tracker) : tracker.linkLost.2.key = none := by
  simp only [Tracker.linkLost]
  split <;> rfl

/-- An operation that brings no key leaves the key or drops it. -/
theorem apply_key {operation : Operation} {handed : List Link.Completion}
    (other : (Occurrence.share operation handed).installs = false) (tracker : Tracker) :
    (operation.apply ⟨tracker, handed⟩).tracker.key = tracker.key ∨
      (operation.apply ⟨tracker, handed⟩).tracker.key = none := by
  cases decided : operation.decides tracker with
  | false =>
    have undecided : operation.decides (Link.Shared.mk tracker handed).tracker = false := decided
    exact .inl (Operation.apply_undecided undecided).1
  | true =>
    refine .inr ?_
    cases operation with
    | installKey key epoch => cases other
    | clearKey => rfl
    | linkLost => exact linkLost_key tracker
    | cancel => rfl
    | _ => cases decided

end Still

section Scripted

variable {script : Script} {worker : Worker (List Contact)} {docket : Docket}

/-- A message that is begun is put on the docket, and what it is going to tell is missing. -/
theorem begin_kept (accounted : Accounted docket worker.world.told)
    (settled : Standing.settled.Stands worker.world) (message : Message) :
    (worker.begin message).Kept
      ⟨docket.begun ++ (if worker.accepts message then [message] else []), docket.ended⟩ := by
  have rests : Standing.settled.Rests := True.intro
  have unbegun : worker.stop.Kept ⟨docket.begun ++ [], docket.ended⟩ := by
    rw [List.append_nil]
    exact ⟨accounted, settled⟩
  unfold Worker.begin
  split
  · rename_i torn
    have refused : worker.accepts message = false := by cases message <;> simp [accepts, torn]
    simpa [refused] using unbegun
  · rename_i goes
    cases message with
    | shutdown => exact unbegun
    | ready =>
      have accepted : worker.accepts .ready = true := by simp [accepts, goes]
      rw [if_pos accepted]
      exact ⟨docket.begun, .ready, worker.world.told, .settled, rfl, accounted, settled,
        worker.controller.greet_tells rests _⟩
    | request ticket content =>
      have accepted : worker.accepts (.request ticket content) = true := by simp [accepts, goes]
      have performs := (worker.controller.perform_tells worker.meshId content rests
        worker.world.told).weaken fun ended later told performed =>
          (⟨performed.1, _, _, ⟨rfl, rfl⟩, performed.2⟩ : later.Rests ∧ ∃ events counts,
            (Message.request ticket content).Told ended.1 events counts ∧
              told = worker.world.told.also events counts)
      rw [if_pos accepted]
      cases content <;>
        exact ⟨docket.begun, _, worker.world.told, .settled, rfl, accounted, settled, performs⟩

/-- A step keeps the docket. -/
theorem step_kept (kept : worker.Kept docket) {later : Worker (List Contact)}
    (does : Does script.transport worker later) : later.Kept (worker.record .step docket) := by
  cases does with
  | begin message queue idle queued =>
    unfold Kept at kept
    rw [idle] at kept
    have recorded : worker.record .step docket =
        ⟨docket.begun ++ (if worker.accepts message then [message] else []), docket.ended⟩ := by
      simp only [record, beginning?, ending?, idle, queued, Option.toList_none, List.append_nil]
      split <;> rfl
    rw [recorded]
    refine begin_kept ?_ ?_ message
    · exact kept.1
    · exact kept.2
  | conclude ticket result controller busy =>
    unfold Kept at kept
    rw [busy] at kept
    obtain ⟨begun, message, telling, standing, same, accounted, stands, rests, events, counts, told,
      final⟩ := kept
    have recorded :
        worker.record .step docket = ⟨begun ++ [message], docket.ended ++ [result]⟩ := by
      simp [record, beginning?, ending?, busy, same]
    rw [recorded]
    exact ⟨final ▸ .after accounted told, stands.settle rests⟩
  | act ticket action next busy =>
    unfold Kept at kept
    rw [busy] at kept
    obtain ⟨begun, message, telling, standing, same, accounted, stands, tells⟩ := kept
    have recorded : worker.record .step docket = docket := by
      simp [record, beginning?, ending?, busy]
    obtain ⟨after, leads, rest⟩ := tells (action.perform script.transport worker.world).1
    rw [recorded]
    refine ⟨begun, message, telling, after, same, accounted, leads.stands rfl stands, ?_⟩
    rw [Action.perform_told]
    exact rest
  | decide ticket targets next verdict busy decided =>
    unfold Kept at kept
    rw [busy] at kept
    obtain ⟨begun, message, telling, standing, same, accounted, stands, tells⟩ := kept
    have recorded : worker.record .step docket = docket := by
      simp [record, beginning?, ending?, busy]
    rw [recorded]
    exact ⟨begun, message, telling, standing, same, accounted, stands, tells verdict⟩

/-- Where there is no step to do, the docket stays as it is. -/
theorem record_unstepped (stuck : worker.step? script.transport = none) :
    worker.record .step docket = docket := by
  unfold record beginning? ending?
  unfold step? at stuck
  cases activity : worker.activity with
  | idle =>
    cases queued : worker.queue with
    | nil => simp
    | cons message queue => simp [activity, queued] at stuck
  | busy ticket rest spent =>
    cases rest with
    | done ended => simp [activity] at stuck
    | act action next => simp [activity] at stuck
    | await bound targets next => simp
  | stopped => simp

/-- Whatever happens keeps the docket, unless a key is brought from outside. A lost link reports and
counts the key that it drops, whatever is under way. -/
theorem Kept.occur (kept : worker.Kept docket) {occurrence : Occurrence}
    (own : occurrence.installs = false) :
    (worker.occur script.transport occurrence).Kept (worker.record occurrence docket) := by
  have lost : worker.tracker.linkLost.2.key = none := linkLost_key worker.tracker
  generalize happened : worker.occur script.transport occurrence = later
  cases occurs happened with
  | unstepped stuck =>
    rw [record_unstepped stuck]
    exact kept
  | stepped _ does => exact step_kept kept does
  | unexpired => exact kept
  | expired ticket targets next busy =>
    unfold Kept at kept
    rw [busy] at kept
    obtain ⟨begun, message, telling, standing, same, accounted, stands, tells⟩ := kept
    exact ⟨begun, message, telling, standing, same, accounted, stands, tells .timedOut⟩
  | shared operation handed => exact kept.quiet rfl rfl rfl (apply_key own worker.tracker)
  | submitted request =>
    have numbered : ({ worker with nextTicket := worker.nextTicket + 1 } :
        Worker (List Contact)).Kept docket := kept.quiet rfl rfl rfl (.inl rfl)
    exact numbered.enqueue (.request worker.nextTicket request)
  | dropped held =>
    refine kept.still rfl ?_ fun standing stands => stands.lose held lost rfl rfl
    simp [World.told, World.emit, World.count, World.withTracker]
  | missed => exact kept.quiet rfl rfl rfl (.inr lost)
  | asked =>
    have marked : ({ worker with pairQueued := true } : Worker (List Contact)).Kept docket :=
      kept.quiet rfl rfl rfl (.inl rfl)
    exact marked.enqueue .ready
  | ignored => exact kept
  | shut =>
    have torn : ({ worker with world := worker.world.withTracker worker.tracker.cancel } :
        Worker (List Contact)).Kept docket := kept.quiet rfl rfl rfl (.inr rfl)
    exact torn.enqueue .shutdown

/-- No course loses anything from the docket. -/
theorem Kept.course (kept : worker.Kept docket) {occurrences : List Occurrence}
    (own : ∀ occurrence ∈ occurrences, occurrence.installs = false) :
    (worker.course script.transport occurrences).Kept
      (worker.docket script.transport occurrences docket) := by
  induction occurrences generalizing worker docket with
  | nil => exact kept
  | cons occurrence occurrences inductionHypothesis =>
    exact inductionHypothesis (kept.occur (own occurrence List.mem_cons_self))
      fun later inside => own later (List.mem_cons_of_mem _ inside)

/-- Where the worker is free, what was told is what the operations on the docket tell, and the
session is settled. -/
theorem Kept.free (kept : worker.Kept docket) (free : worker.isFree = true) :
    Accounted docket worker.world.told ∧ Standing.settled.Stands worker.world := by
  unfold Kept at kept
  unfold isFree at free
  split at kept
  · rename_i busy
    simp [busy] at free
  · exact kept

end Scripted

end Worker

/-! ## The audit -/

/-- What holds of a worker between two operations. What was told, dropped keys aside, is what the
operations tell, one after the other, and counters, events and docket agree. Each pairing is
reported as begun and then as ended, before the next one is. A key is there only if the latest
report about the session established it. There is at most one dropped key for each session that was
established, and none yet for the session whose key is there. -/
structure Audited (world : World (List Contact)) (docket : Docket) : Prop where
  accounted : Accounted docket world.told
  balanced : Balanced world.events world.counts docket
  pairings : ∃ outcomes : List Outcome, world.events.filter isAboutPairing =
    outcomes.flatMap fun outcome => [.pairingStarted, .pairingFinished outcome]
  latest : world.tracker.key ≠ none → world.latest = some (.pairingFinished .established)
  drops : world.drops + world.tracker.key.isSome.toNat ≤ world.sessions

/-- Whatever the order of steps, bounds, requests, reports of the link, shutdowns and other uses of
the tracker, unless a key is brought from outside: wherever a worker is between two operations, or
has ended, events and counters account for every operation that it carried out. -/
theorem operations_accounted (script : Script) (settings : Settings) (unseeded : Random.Source)
    (occurrences : List Occurrence)
    (own : ∀ occurrence ∈ occurrences, occurrence.installs = false) :
    let start := Worker.start settings unseeded ([] : List Contact)
    let worker := start.course script.transport occurrences
    worker.isFree = true →
      Audited worker.world (start.docket script.transport occurrences {}) := by
  intro start worker free
  have kept : start.Kept {} := by
    refine ⟨.nothing, rfl, ?_, fun keyed => absurd rfl keyed⟩
    exact Nat.le_refl 0
  obtain ⟨accounted, counted, drops, latest⟩ := (kept.course own).free free
  obtain ⟨outcomes, pairings⟩ := accounted.pairings
  exact ⟨accounted, (Balanced.of_accounted accounted).whole counted,
    ⟨outcomes, told_filter ▸ pairings⟩, latest, drops⟩

/-- The light accepts one pairing and is silent from then on. -/
def oneAnswer : Script
  | 0 => { report := some .written }
  | 1 => { report := some .written }
  | 2 => { report := some (.delivered (Frame.pairAcceptedTag :: List.replicate 8 7)) }
  | _ => {}

/-- The link is ready, is lost after a pairing and is ready again; a second pairing runs into its
bound while a command waits. -/
def lostAndFound : List Occurrence :=
  .notice .servicesResolved :: List.replicate 40 .step ++
    [.notice .disconnected, .notice .servicesResolved, .submit (.light (.power true))] ++
    List.replicate 12 .step ++ .expire :: List.replicate 24 .step

/-- A dropped key, a bound that a pairing for a ready link ran into, and a refused command, all
accounted for. -/
theorem operations_accounted_lost :
    let settings : Settings := { address := ⟨Vector.replicate 6 1⟩, credentials :=
      ⟨"hall", "4321", by decide +kernel, by decide +kernel⟩ }
    let start := Worker.start settings { word := fun _ => 7 } ([] : List Contact)
    let worker := start.course oneAnswer.transport lostAndFound
    worker.world.events =
        [.pairingStarted, .pairingFinished .established, .disconnected, .pairingStarted,
          .pairingFinished .timeout, .commandFailed 0xd0 "not_established"] ∧
      Audited worker.world (start.docket oneAnswer.transport lostAndFound {}) := by
  intro settings start worker
  have evaluated : worker.isFree = true ∧ worker.world.events =
      [.pairingStarted, .pairingFinished .established, .disconnected, .pairingStarted,
        .pairingFinished .timeout, .commandFailed 0xd0 "not_established"] := by
    decide +kernel
  exact ⟨evaluated.2, operations_accounted oneAnswer settings { word := fun _ => 7 } lostAndFound
    (by decide) evaluated.1⟩

end MeshLight.Session
