import MeshLight.Proofs.Link.Script
import MeshLight.Session.Procedure

/-!
# What procedures tell

A procedure reports and counts, and others do so next to it: whoever is told about a lost link
reports and counts the dropped key. What a procedure tells by itself is therefore everything but
that, and it can be read off its tree whatever its actions reply.

A dropped key is accounted for by where the session stands. A key that is dropped by the procedure
itself is owed a report and a count, and nobody else pays for it, because nobody else finds the key;
a key that is dropped by a lost link is paid for on the spot. A key that is installed is reported as
established only afterwards, and may be gone by then.
-/

namespace MeshLight.Session

open Link (Contact Script Tracker)
open Report (Event Count)

/-! ## Where a session stands -/

/-- The event is about the session as such: a pairing or a dropped key. -/
def isAboutSession : Event → Bool
  | .pairingStarted => true
  | .pairingFinished _ => true
  | .disconnected => true
  | _ => false

/-- Where a session stands between its reports. If it is settled, a key is there only if the latest
report about the session established it; if it is keyless, there is none. A key that was dropped is
owing until it is counted, and then counted until it is reported; one that was installed is fresh
until that is reported. -/
inductive Standing where
  | settled
  | keyless
  | owing
  | counted
  | fresh

/-- Nothing is left to report. -/
def Standing.Rests : Standing → Prop
  | .settled => True
  | .keyless => True
  | _ => False

section World

variable {State : Type} {world later : World State}

namespace World

variable (world)

/-- How many sessions were established. -/
def sessions : Nat :=
  world.events.count (.pairingFinished .established)

/-- How many dropped keys were reported. -/
def drops : Nat :=
  world.events.count .disconnected

/-- How many dropped keys were counted. -/
def disconnects : Nat :=
  world.counts.count .disconnect

/-- The latest report about the session. -/
def latest : Option Event :=
  (world.events.filter isAboutSession).getLast?

end World

/-- The world agrees with where the session stands. -/
def Standing.Stands (world : World State) : Standing → Prop
  | .settled =>
    world.disconnects = world.drops ∧
      world.drops + world.tracker.key.isSome.toNat ≤ world.sessions ∧
      (world.tracker.key ≠ none → world.latest = some (.pairingFinished .established))
  | .keyless =>
    world.disconnects = world.drops ∧ world.tracker.key = none ∧ world.drops ≤ world.sessions
  | .owing =>
    world.disconnects = world.drops ∧ world.tracker.key = none ∧ world.drops < world.sessions
  | .counted =>
    world.disconnects = world.drops + 1 ∧ world.tracker.key = none ∧ world.drops < world.sessions
  | .fresh =>
    world.disconnects = world.drops ∧
      world.drops + world.tracker.key.isSome.toNat ≤ world.sessions + 1

/-- Nothing is reported about the session, no dropped key is counted, and no key is installed. -/
structure Unmoved (world later : World State) : Prop where
  sessions : later.sessions = world.sessions
  drops : later.drops = world.drops
  disconnects : later.disconnects = world.disconnects
  latest : later.latest = world.latest
  key : later.tracker.key = world.tracker.key ∨ later.tracker.key = none

namespace Standing

/-- Without a key the session is settled. -/
theorem Stands.settle {standing : Standing} (stands : standing.Stands world)
    (rests : standing.Rests) : Standing.settled.Stands world := by
  cases standing with
  | settled => exact stands
  | keyless =>
    obtain ⟨counted, absent, enough⟩ := stands
    exact ⟨counted, by simpa [absent] using enough, fun keyed => absurd absent keyed⟩
  | owing => cases rests
  | counted => cases rests
  | fresh => cases rests

/-- If nothing is reported, the session stands where it stood. -/
theorem Stands.unmoved {standing : Standing} (stands : standing.Stands world)
    (unmoved : Unmoved world later) : standing.Stands later := by
  obtain ⟨sessions, drops, disconnects, latest, key⟩ := unmoved
  have fewer : later.tracker.key.isSome.toNat ≤ world.tracker.key.isSome.toNat := by
    rcases key with same | gone
    · exact Nat.le_of_eq (by rw [same])
    · simp [gone]
  have absent (before : world.tracker.key = none) : later.tracker.key = none := by
    rcases key with same | gone
    · rw [same, before]
    · exact gone
  cases standing with
  | settled =>
    obtain ⟨counted, enough, told⟩ := stands
    refine ⟨by omega, by omega, fun keyed => ?_⟩
    rw [latest]
    exact told fun before => keyed (absent before)
  | keyless =>
    obtain ⟨counted, before, enough⟩ := stands
    exact ⟨by omega, absent before, by omega⟩
  | owing =>
    obtain ⟨counted, before, enough⟩ := stands
    exact ⟨by omega, absent before, by omega⟩
  | counted =>
    obtain ⟨counted, before, enough⟩ := stands
    exact ⟨by omega, absent before, by omega⟩
  | fresh =>
    obtain ⟨counted, enough⟩ := stands
    exact ⟨by omega, by omega⟩

/-- A key that is dropped, reported and counted at once leaves the session where it stood. -/
theorem Stands.lose {standing : Standing} (stands : standing.Stands world)
    (held : world.tracker.key.isSome = true) (lost : later.tracker.key = none)
    (events : later.events = world.events ++ [.disconnected])
    (counts : later.counts = world.counts ++ [.disconnect]) : standing.Stands later := by
  have drops : later.drops = world.drops + 1 := by simp [World.drops, events]
  have disconnects : later.disconnects = world.disconnects + 1 := by
    simp [World.disconnects, counts]
  have sessions : later.sessions = world.sessions := by simp [World.sessions, events]
  have absurdly (before : world.tracker.key = none) : standing.Stands later := by
    simp [before] at held
  cases standing with
  | settled =>
    obtain ⟨counted, enough, -⟩ := stands
    rw [held, Bool.toNat_true] at enough
    refine ⟨by omega, ?_, fun keyed => absurd lost keyed⟩
    rw [lost, Option.isSome_none, Bool.toNat_false]
    omega
  | keyless => exact absurdly stands.2.1
  | owing => exact absurdly stands.2.1
  | counted => exact absurdly stands.2.1
  | fresh =>
    obtain ⟨counted, enough⟩ := stands
    rw [held, Bool.toNat_true] at enough
    refine ⟨by omega, ?_⟩
    rw [lost, Option.isSome_none, Bool.toNat_false]
    omega

end Standing

end World

/-! ## What an action does to a session -/

/-- The action installs and drops no key, and reports nothing about the session. -/
def Action.isNeutral : Action → Bool
  | .installKey _ _ => false
  | .clearKey => false
  | .emit event => !isAboutSession event
  | .count counted => counted != .disconnect
  | _ => true

/-- Where an action leads, by its reply. What is missing here does not happen. A key that is dropped
is counted and then reported, except that a pairing which begins behind it takes the place of its
report; a pairing ends as established exactly behind a key that was installed. -/
inductive Leads : Standing → (action : Action) → action.Reply → Standing → Prop where
  | dropped {standing : Standing} (rests : standing.Rests) : Leads standing .clearKey true .owing
  | missing {standing : Standing} (rests : standing.Rests) : Leads standing .clearKey false .keyless
  | installed {key : SessionKey} {epoch : Nat} : Leads .keyless (.installKey key epoch) true .fresh
  | refused {key : SessionKey} {epoch : Nat} :
    Leads .keyless (.installKey key epoch) false .keyless
  | begun {standing : Standing} (keyless : standing = .keyless ∨ standing = .owing) :
    Leads standing (.emit .pairingStarted) () .keyless
  | established : Leads .fresh (.emit (.pairingFinished .established)) () .settled
  | failed {outcome : Outcome} (other : outcome ≠ .established) :
    Leads .keyless (.emit (.pairingFinished outcome)) () .keyless
  | counted : Leads .owing (.count .disconnect) () .counted
  | reported : Leads .counted (.emit .disconnected) () .keyless
  | neutral {standing : Standing} {action : Action} {reply : action.Reply}
    (neutral : action.isNeutral = true) : Leads standing action reply standing

/-- A turn installs no key. -/
theorem turn_key (turn : Link.Turn) (completion : Link.Completion) (tracker : Tracker) :
    (turn.apply completion tracker).key = tracker.key ∨
      (turn.apply completion tracker).key = none := by
  obtain ⟨-, -, key, -⟩ := turn.apply_frame completion tracker
  rw [key]
  split
  · exact .inl rfl
  · exact .inr rfl

section Scripted

variable {script : Script} {world : World (List Contact)}

/-- An action that installs and reports nothing leaves the session where it stands. -/
theorem perform_unmoved {action : Action} (neutral : action.isNeutral = true) :
    Unmoved world (action.perform script.transport world).2 := by
  have still {later : World (List Contact)} (events : later.events = world.events)
      (counts : later.counts = world.counts)
      (key : later.tracker.key = world.tracker.key ∨ later.tracker.key = none) :
      Unmoved world later :=
    ⟨by simp [World.sessions, events], by simp [World.drops, events],
      by simp [World.disconnects, counts], by simp [World.latest, events], key⟩
  cases action with
  | installKey key epoch => cases neutral
  | clearKey => cases neutral
  | emit event =>
    have others : isAboutSession event = false := by simpa [Action.isNeutral] using neutral
    refine ⟨?_, ?_, rfl, ?_, .inl rfl⟩
    · cases event <;> simp_all [Action.perform, World.sessions, World.emit, isAboutSession]
    · cases event <;> simp_all [Action.perform, World.drops, World.emit, isAboutSession]
    · simp [Action.perform, World.latest, World.emit, others]
  | count counted =>
    have others : counted ≠ .disconnect := by simpa [Action.isNeutral] using neutral
    exact ⟨rfl, rfl, by simp [Action.perform, World.disconnects, World.count, others], rfl,
      .inl rfl⟩
  | write characteristic value completion => exact still rfl rfl (turn_key _ completion _)
  | read characteristic completion => exact still rfl rfl (turn_key _ completion _)
  | disconnect =>
    refine still rfl rfl ?_
    simp only [Action.perform, World.onTransport, Script.transport, Tracker.disturb_key]
    split
    · exact .inl rfl
    · exact .inr rfl
  | _ => exact still rfl rfl (.inl rfl)

/-- An action leads where it says. -/
theorem Leads.stands {standing later : Standing} {action : Action} {reply : action.Reply}
    (leads : Leads standing action reply later)
    (replied : (action.perform script.transport world).1 = reply)
    (stands : standing.Stands world) :
    later.Stands (action.perform script.transport world).2 := by
  cases leads with
  | dropped rests =>
    have found : world.tracker.key.isSome = true := replied
    cases standing with
    | settled =>
      obtain ⟨counted, enough, -⟩ := stands
      rw [found] at enough
      exact ⟨counted, rfl, enough⟩
    | keyless =>
      obtain ⟨-, absent, -⟩ := stands
      simp [absent] at found
    | owing => cases rests
    | counted => cases rests
    | fresh => cases rests
  | missing rests =>
    obtain ⟨counted, enough, -⟩ := stands.settle rests
    exact ⟨counted, rfl, Nat.le_of_add_right_le enough⟩
  | installed =>
    obtain ⟨counted, -, enough⟩ := stands
    exact ⟨counted, Nat.add_le_add enough (Bool.toNat_le _)⟩
  | refused =>
    obtain ⟨counted, absent, enough⟩ := stands
    refine ⟨counted, ?_, enough⟩
    simp only [Action.perform, World.onTracker, Tracker.installKey] at replied ⊢
    split at replied
    · rename_i blocked
      simp [blocked, absent]
    · cases replied
  | begun keyless =>
    have before : Standing.keyless.Stands world := by
      rcases keyless with rfl | rfl
      · exact stands
      · exact ⟨stands.1, stands.2.1, Nat.le_of_lt stands.2.2⟩
    obtain ⟨counted, absent, enough⟩ := before
    exact ⟨by simpa [World.disconnects, World.drops, Action.perform, World.emit] using counted,
      absent, by simpa [World.drops, World.sessions, Action.perform, World.emit] using enough⟩
  | established =>
    obtain ⟨counted, enough⟩ := stands
    exact ⟨by simpa [World.disconnects, World.drops, Action.perform, World.emit] using counted,
      by simpa [World.drops, World.sessions, Action.perform, World.emit] using enough,
      fun _ => by simp [World.latest, Action.perform, World.emit, isAboutSession]⟩
  | failed other =>
    obtain ⟨counted, absent, enough⟩ := stands
    exact ⟨by simpa [World.disconnects, World.drops, Action.perform, World.emit] using counted,
      absent,
      by simpa [World.drops, World.sessions, Action.perform, World.emit, other] using enough⟩
  | counted =>
    obtain ⟨counted, absent, enough⟩ := stands
    exact ⟨by simpa [World.disconnects, World.drops, Action.perform, World.count] using counted,
      absent, enough⟩
  | reported =>
    obtain ⟨counted, absent, enough⟩ := stands
    have once : world.drops + 1 ≤ world.sessions := enough
    exact ⟨by simpa [World.disconnects, World.drops, Action.perform, World.emit] using counted,
      absent, by simpa [World.drops, World.sessions, Action.perform, World.emit] using once⟩
  | neutral neutral => exact stands.unmoved (perform_unmoved neutral)

end Scripted

/-! ## What a procedure tells -/

/-- What was reported and counted, dropped keys aside, oldest first. -/
structure Telling where
  events : List Event := []
  counts : List Count := []

/-- More was told. -/
def Telling.also (telling : Telling) (events : List Event) (counts : List Count) : Telling :=
  ⟨telling.events ++ events, telling.counts ++ counts⟩

@[simp] theorem Telling.also_nothing (telling : Telling) : telling.also [] [] = telling := by
  simp [Telling.also]

@[simp] theorem Telling.also_also (telling : Telling) (first second : List Event)
    (one two : List Count) :
    (telling.also first one).also second two = telling.also (first ++ second) (one ++ two) := by
  simp [Telling.also]

/-- What was told in a world. -/
def World.told {State : Type} (world : World State) : Telling :=
  ⟨world.events.filter (· ≠ .disconnected), world.counts.filter (· ≠ .disconnect)⟩

namespace Action

/-- What an action reports. -/
def reports : Action → List Event
  | .emit event => [event].filter (· ≠ .disconnected)
  | _ => []

/-- What an action counts. -/
def counts : Action → List Count
  | .count counted => [counted].filter (· ≠ .disconnect)
  | _ => []

/-- An action tells what it reports and counts. -/
theorem perform_told {State : Type} (transport : Link.Transport State) (action : Action)
    (world : World State) :
    (action.perform transport world).2.told = world.told.also action.reports action.counts := by
  cases action with
  | emit event => simp [Action.perform, World.told, World.emit, Telling.also, reports, counts]
  | count counted => simp [Action.perform, World.told, World.count, Telling.also, reports, counts]
  | _ => exact (Telling.also_nothing world.told).symm

end Action

namespace Procedure

variable {First Second : Type}

/-- Whatever its actions reply, the procedure goes where its actions lead, and what stands behind it
holds of its value, of where the session stands then, and of all that was told until then. -/
def Tells (post : First → Standing → Telling → Prop) :
    Procedure First → Standing → Telling → Prop
  | .done value, standing, telling => post value standing telling
  | .act action next, standing, telling =>
    ∀ reply, ∃ later, Leads standing action reply later ∧
      (next reply).Tells post later (telling.also action.reports action.counts)
  | .await _ _ next, standing, telling => ∀ verdict, (next verdict).Tells post standing telling

namespace Tells

variable {post : First → Standing → Telling → Prop} {behind : Second → Standing → Telling → Prop}
  {standing : Standing} {telling : Telling}

/-- Procedures one after the other. -/
theorem bind {first : Procedure First} {second : First → Procedure Second}
    (begins : first.Tells post standing telling)
    (continues : ∀ value later told, post value later told →
      (second value).Tells behind later told) :
    (first >>= second).Tells behind standing telling := by
  induction first generalizing standing telling with
  | done value => exact continues value standing telling begins
  | act action next inductionHypothesis =>
    intro reply
    obtain ⟨later, leads, rest⟩ := begins reply
    exact ⟨later, leads, inductionHypothesis reply rest⟩
  | await bound targets next inductionHypothesis =>
    exact fun verdict => inductionHypothesis verdict (begins verdict)

/-- Less is said of what stands behind. -/
theorem weaken {procedure : Procedure First} {weaker : First → Standing → Telling → Prop}
    (tells : procedure.Tells post standing telling)
    (implies : ∀ value later told, post value later told → weaker value later told) :
    procedure.Tells weaker standing telling := by
  induction procedure generalizing standing telling with
  | done value => exact implies value standing telling tells
  | act action next inductionHypothesis =>
    intro reply
    obtain ⟨later, leads, rest⟩ := tells reply
    exact ⟨later, leads, inductionHypothesis reply rest⟩
  | await bound targets next inductionHypothesis =>
    exact fun verdict => inductionHypothesis verdict (tells verdict)

/-- An action and then a procedure. -/
theorem act {action : Action} {second : action.Reply → Procedure Second}
    (leads : ∀ reply, ∃ later, Leads standing action reply later ∧
      (second reply).Tells behind later (telling.also action.reports action.counts)) :
    (Procedure.of action >>= second).Tells behind standing telling :=
  leads

/-- An action that tells nothing, and then a procedure. -/
theorem silent {action : Action} {second : action.Reply → Procedure Second}
    (reports : action.reports = []) (counts : action.counts = [])
    (leads : ∀ reply, ∃ later, Leads standing action reply later ∧
      (second reply).Tells behind later telling) :
    (Procedure.of action >>= second).Tells behind standing telling := by
  refine Tells.act fun reply => ?_
  rw [reports, counts, Telling.also_nothing]
  exact leads reply

/-- An action that is not about the session. -/
theorem neutral {action : Action} {second : action.Reply → Procedure Second}
    (neutral : action.isNeutral = true)
    (continues : ∀ reply,
      (second reply).Tells behind standing (telling.also action.reports action.counts)) :
    (Procedure.of action >>= second).Tells behind standing telling :=
  fun reply => ⟨standing, .neutral neutral, continues reply⟩

/-- An action that is not about the session and tells nothing. -/
theorem quiet {action : Action} {second : action.Reply → Procedure Second}
    (neutral : action.isNeutral = true) (reports : action.reports = [])
    (counts : action.counts = [])
    (continues : ∀ reply, (second reply).Tells behind standing telling) :
    (Procedure.of action >>= second).Tells behind standing telling :=
  silent reports counts fun reply => ⟨standing, .neutral neutral, continues reply⟩

end Tells

end Procedure

end MeshLight.Session
