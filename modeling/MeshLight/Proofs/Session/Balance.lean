import MeshLight.Proofs.Session.Accounts

/-!
# Counters, events and operations agree

A docket lists the operations that were carried out and the results that came of them. If what was
told is what these operations tell, one after the other, then the counters agree with the events and
with the docket: each operation on its own agrees, and agreement is a matter of sums. Reports and
counts of dropped keys may stand anywhere among the others; they touch no other sum.
-/

namespace MeshLight.Session

open Report (Count Counter Event)

/-! ## Dockets -/

/-- The messages that a worker began and the results of the operations that ended, oldest first. -/
structure Docket where
  begun : List Message := []
  ended : List Result := []

/-- What was told is what the operations on the docket tell, one after the other. -/
inductive Accounted : Docket → Telling → Prop where
  | nothing : Accounted {} {}
  | after {docket : Docket} {telling : Telling} {message : Message} {result : Result}
    {events : List Event} {counts : List Count} (earlier : Accounted docket telling)
    (told : message.Told result events counts) :
    Accounted ⟨docket.begun ++ [message], docket.ended ++ [result]⟩ (telling.also events counts)

/-! ## Numbers -/

/-- How far a counter was raised. -/
def tally (counter : Counter) (counts : List Count) : Nat :=
  counts.countP fun count => count.counter = counter

/-- How many events have a name. -/
def named (name : String) (events : List Event) : Nat :=
  events.countP fun event => event.name = name

/-- The message is a light command. -/
def Message.isLight : Message → Bool
  | .request _ (.light _) => true
  | _ => false

/-- The operation ended because a step ran into its bound. -/
def isTimeout : Result → Bool
  | .error (.timeout _ _) => true
  | _ => false

/-- The event is about a pairing. -/
def isAboutPairing : Event → Bool
  | .pairingStarted => true
  | .pairingFinished _ => true
  | _ => false

/-- Counters, events and docket agree. Every pairing that was begun is counted and reported as
ended, and it brought a key, which is reported too, or failed. Every command was sent or failed, and
is counted so. A status that was read, a key that is reported as dropped, and an operation that
ended because a step ran into its bound are counted once each. -/
structure Balanced (events : List Event) (counts : List Count) (docket : Docket) : Prop where
  attempts : tally .pairingAttempts counts = named "pairing_started" events
  finished : tally .pairingAttempts counts = named "pairing_finished" events
  outcomes : tally .pairingAttempts counts =
    tally .pairingEstablished counts + tally .pairingFailures counts
  established : tally .pairingEstablished counts = events.count (.pairingFinished .established)
  sent : tally .commandsSent counts = named "command_sent" events
  failed : tally .commandsFailed counts = named "command_failed" events
  commands : tally .commandsSent counts + tally .commandsFailed counts =
    docket.begun.countP Message.isLight
  reads : tally .statusReads counts = named "status_received" events
  timeouts : tally .stepTimeouts counts = docket.ended.countP isTimeout
  disconnects : tally .disconnects counts = named "disconnected" events

namespace Balanced

variable {events further : List Event} {counts more : List Count} {docket other : Docket}
  {message : Message} {result : Result}

/-- There is nothing to agree about. -/
theorem nothing : Balanced [] [] {} :=
  ⟨rfl, rfl, rfl, rfl, rfl, rfl, rfl, rfl, rfl, rfl⟩

/-- What agrees before and behind agrees as a whole. -/
theorem append (first : Balanced events counts docket) (second : Balanced further more other) :
    Balanced (events ++ further) (counts ++ more)
      ⟨docket.begun ++ other.begun, docket.ended ++ other.ended⟩ := by
  obtain ⟨attempts, finished, outcomes, established, sent, failed, commands, reads, timeouts,
    disconnects⟩ := first
  obtain ⟨attempts', finished', outcomes', established', sent', failed', commands', reads',
    timeouts', disconnects'⟩ := second
  simp only [tally, named] at *
  constructor <;> simp only [tally, named, List.countP_append, List.count_append] <;> omega

/-- What agrees with a result agrees with a message that is no light command, too. -/
theorem plain (balanced : Balanced events counts ⟨[], [result]⟩) (other : message.isLight = false) :
    Balanced events counts ⟨[message], [result]⟩ :=
  { balanced with commands := by simpa [other] using balanced.commands }

/-- A step that ran into its bound is counted once. -/
theorem of_counted (result : Result) : Balanced [] (Step.counted result) ⟨[], [result]⟩ := by
  cases result with
  | ok answer => constructor <;> rfl
  | error failure => cases failure <;> constructor <;> rfl

/-- What a pairing tells agrees with its result. -/
theorem of_pairing (result : Result) :
    Balanced (Request.pair.reports result) (Request.pair.counts result) ⟨[], [result]⟩ := by
  cases result with
  | ok answer => constructor <;> rfl
  | error failure => cases failure <;> constructor <;> rfl

/-- What an operation tells agrees with its message and its result. -/
theorem of_told (told : message.Told result events counts) :
    Balanced events counts ⟨[message], [result]⟩ := by
  cases message with
  | shutdown => cases told
  | ready =>
    obtain ⟨rfl, rfl⟩ | ⟨rfl, rfl, rfl⟩ := told
    · exact (of_pairing result).plain rfl
    · exact (of_counted (.ok .done)).plain rfl
  | request ticket content =>
    obtain ⟨rfl, rfl⟩ := told
    cases content with
    | pair => exact (of_pairing result).plain rfl
    | light command =>
      have sent : Balanced [commandEvent command result] [commandCount command result]
          ⟨[.request ticket (.light command)], []⟩ := by
        cases result <;> constructor <;> rfl
      exact (of_counted result).append sent
    | status =>
      cases result with
      | ok answer => cases answer <;> constructor <;> rfl
      | error failure => exact (of_counted (.error failure)).plain rfl
    | migrate credentials longTermKey =>
      cases result with
      | ok answer => constructor <;> rfl
      | error failure => exact (of_counted (.error failure)).plain rfl

/-- What is accounted for agrees. -/
theorem of_accounted {telling : Telling} (accounted : Accounted docket telling) :
    Balanced telling.events telling.counts docket := by
  induction accounted with
  | nothing => exact .nothing
  | after earlier told inductionHypothesis => exact inductionHypothesis.append (of_told told)

end Balanced

/-- What an operation reports about a pairing is its beginning and its end. -/
theorem told_pairings {message : Message} {result : Result} {events : List Event}
    {counts : List Count} (told : message.Told result events counts) :
    events.filter isAboutPairing = [] ∨
      events.filter isAboutPairing =
        [.pairingStarted, .pairingFinished (pairingOutcome result)] := by
  cases message with
  | shutdown => cases told
  | ready =>
    obtain ⟨rfl, rfl⟩ | ⟨rfl, rfl, rfl⟩ := told
    · exact .inr rfl
    · exact .inl rfl
  | request ticket content =>
    obtain ⟨rfl, rfl⟩ := told
    cases content with
    | pair => exact .inr rfl
    | light command => cases result <;> exact .inl rfl
    | status =>
      cases result with
      | ok answer => cases answer <;> exact .inl rfl
      | error failure => exact .inl rfl
    | migrate credentials longTermKey => cases result <;> exact .inl rfl

/-- Each pairing is over before the next one begins. -/
theorem Accounted.pairings {docket : Docket} {telling : Telling}
    (accounted : Accounted docket telling) :
    ∃ outcomes : List Outcome, telling.events.filter isAboutPairing =
      outcomes.flatMap fun outcome => [.pairingStarted, .pairingFinished outcome] := by
  induction accounted with
  | nothing => exact ⟨[], rfl⟩
  | @after _ _ _ result _ _ _ told inductionHypothesis =>
    obtain ⟨outcomes, earlier⟩ := inductionHypothesis
    rcases told_pairings told with none | one
    · exact ⟨outcomes, by rw [Telling.also, List.filter_append, earlier, none, List.append_nil]⟩
    · exact ⟨outcomes ++ [pairingOutcome result],
        by simp [Telling.also, List.filter_append, earlier, one]⟩

/-! ## What dropped keys add -/

section World

variable {State : Type} {world : World State}

/-- Dropped keys aside, a counter was raised as far as it was. -/
theorem tally_told {counter : Counter} (other : counter ≠ .disconnects) :
    tally counter world.told.counts = tally counter world.counts := by
  unfold tally World.told
  rw [List.countP_filter]
  refine List.countP_congr fun count _ => ?_
  cases count with
  | disconnect => simp [Count.counter, other.symm]
  | _ => simp

/-- Dropped keys aside, events with a name are as many as they were. -/
theorem named_told {name : String} (other : name ≠ "disconnected") :
    named name world.told.events = named name world.events := by
  unfold named World.told
  rw [List.countP_filter]
  refine List.countP_congr fun event _ => ?_
  cases event with
  | disconnected => simp [Event.name, other.symm]
  | _ => simp

/-- Dropped keys are counted by a counter of their own. -/
theorem tally_disconnects : tally .disconnects world.counts = world.disconnects := by
  unfold tally World.disconnects List.count
  refine List.countP_congr fun count _ => ?_
  cases count <;> simp [Count.counter] <;> rfl

/-- Dropped keys are reported by an event of their own. -/
theorem named_disconnected : named "disconnected" world.events = world.drops := by
  unfold named World.drops List.count
  refine List.countP_congr fun event _ => ?_
  cases event <;> simp [Event.name]

/-- What agrees without the dropped keys agrees with them, if they are counted as they are
reported. -/
theorem Balanced.whole {docket : Docket}
    (balanced : Balanced world.told.events world.told.counts docket)
    (counted : world.disconnects = world.drops) :
    Balanced world.events world.counts docket := by
  obtain ⟨attempts, finished, outcomes, established, sent, failed, commands, reads, timeouts, -⟩ :=
    balanced
  have sessions : world.told.events.count (.pairingFinished .established) =
      world.events.count (.pairingFinished .established) :=
    List.count_filter (by decide)
  simp only [tally_told (by decide : Counter.pairingAttempts ≠ .disconnects),
    tally_told (by decide : Counter.pairingEstablished ≠ .disconnects),
    tally_told (by decide : Counter.pairingFailures ≠ .disconnects),
    tally_told (by decide : Counter.commandsSent ≠ .disconnects),
    tally_told (by decide : Counter.commandsFailed ≠ .disconnects),
    tally_told (by decide : Counter.statusReads ≠ .disconnects),
    tally_told (by decide : Counter.stepTimeouts ≠ .disconnects),
    named_told (by decide : "pairing_started" ≠ "disconnected"),
    named_told (by decide : "pairing_finished" ≠ "disconnected"),
    named_told (by decide : "command_sent" ≠ "disconnected"),
    named_told (by decide : "command_failed" ≠ "disconnected"),
    named_told (by decide : "status_received" ≠ "disconnected"), sessions] at *
  exact ⟨attempts, finished, outcomes, established, sent, failed, commands, reads, timeouts,
    by rw [tally_disconnects, named_disconnected, counted]⟩

/-- Dropped keys are no reports of pairings. -/
theorem told_filter :
    world.told.events.filter isAboutPairing = world.events.filter isAboutPairing := by
  unfold World.told
  rw [List.filter_filter]
  refine List.filter_congr fun event _ => ?_
  cases event <;> rfl

end World

end MeshLight.Session
