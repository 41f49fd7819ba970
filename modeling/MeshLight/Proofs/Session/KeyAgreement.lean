import MeshLight.Proofs.Session.Agreement
import MeshLight.Proofs.Session.Pace

/-!
# Agreement about the key

A worker and one bulb, with everything that can happen to them, in any order: the worker does its
next step or runs into a bound, callers submit requests, the link reports its changes, and other
parties make their moves between any two actions. In every state that is reached so, a key on the
side of the worker is the key of a bulb whose link is up.

The invariant is that both sides agree and that the rest of the operation under way is safe. A
happening either advances the operation, which safety describes, or is a move of another party,
which safety tolerates.
-/

namespace MeshLight.Session

open Link (ConnectionEvent Disturbance)

/-- Something that happens to a worker and its bulb. It is an occurrence for the worker, except that
the tracker is used by the other parties through their moves only. -/
inductive Happening where
  | step
  | expire
  | move (content : Move)
  | submit (request : Request)
  | notice (event : ConnectionEvent)
  | shutDown

namespace Worker

/-- The worker after a happening. -/
def undergo (worker : Worker Courier) : Happening → Worker Courier
  | .step => (worker.step? Courier.transport).getD worker
  | .expire => worker.expire?.getD worker
  | .move content => { worker with world := worker.world.onTransport content.apply }
  | .submit request => (worker.submit request).2
  | .notice event => worker.notice event
  | .shutDown => worker.shutDown

/-- The worker after happenings, first one first. -/
def live (worker : Worker Courier) (happenings : List Happening) : Worker Courier :=
  happenings.foldl undergo worker

/-- The bulb. -/
def bulb (worker : Worker Courier) : Bulb :=
  worker.world.transport.bulb

/-- The random of the pair request that the worker is about to write. -/
def requesting? {State : Type} (worker : Worker State) : Option SessionRandom :=
  match worker.activity with
  | .busy _ (.act (.write characteristic value _) _) _ =>
    requestRandom? (.write characteristic value)
  | _ => none

/-- The proof in a pair request that is about to be written is not by chance that of a bulb with
another secret. -/
def Discerning (worker : Worker Courier) : Prop :=
  ∀ random, worker.requesting? = some random →
    worker.bulb.Discerns worker.controller.credentials random

/-- Both sides agree, and what is left of the operation under way keeps it so. -/
structure Guarded (worker : Worker Courier) : Prop where
  sound : Sound worker.world.scene
  safe : ∀ ticket rest spent, worker.activity = .busy ticket rest spent →
    rest.Safe worker.controller.credentials (fun _ _ => True) worker.world

variable {worker : Worker Courier}

/-- An action about to be performed is discerned. -/
theorem Discerning.action (discerning : worker.Discerning) {ticket : Option Nat} {action : Action}
    {next : action.Reply → Procedure (Result × Controller)} {spent : Nat}
    (busy : worker.activity = .busy ticket (.act action next) spent) :
    action.Discerned worker.controller.credentials worker.bulb := by
  cases action with
  | write characteristic value completion =>
    cases characteristic with
    | pairing =>
      intro random asks
      exact discerning random (by rw [requesting?, busy]; exact asks)
    | status => exact True.intro
    | command => exact True.intro
  | _ => exact True.intro

namespace Guarded

/-- What other parties do to the world is tolerated. -/
theorem later (guarded : worker.Guarded) {other : Worker Courier}
    (precedes : worker.world.Precedes other.world)
    (controller : other.controller = worker.controller)
    (activity : other.activity = worker.activity) : other.Guarded := by
  refine ⟨precedes.steady Sound.steady guarded.sound, fun ticket rest spent busy => ?_⟩
  rw [controller]
  exact (guarded.safe ticket rest spent (activity ▸ busy)).later (fun _ => Steady.trivial) precedes

/-- A worker that is not busy needs nothing but the agreement. -/
theorem unbusy {other : Worker Courier} (sound : Sound other.world.scene)
    (free : ∀ ticket rest spent, other.activity ≠ .busy ticket rest spent) : other.Guarded :=
  ⟨sound, fun ticket rest spent busy => absurd busy (free ticket rest spent)⟩

/-- A message begins an operation that keeps the agreement. -/
theorem begin (sound : Sound worker.world.scene) (message : Message) :
    (worker.begin message).Guarded := by
  have stopped : worker.stop.Guarded := unbusy sound fun _ _ _ busy => by cases busy
  have starts (ticket : Option Nat) (operation : Procedure (Result × Controller))
      (keeps : Keeps worker.controller.credentials operation) {other : Worker Courier}
      (world : other.world = worker.world) (controller : other.controller = worker.controller)
      (activity : other.activity = .busy ticket operation 0) : other.Guarded := by
    refine ⟨world ▸ sound, fun given rest spent busy => ?_⟩
    rw [activity] at busy
    cases busy
    rw [controller, world]
    exact keeps worker.world sound True.intro
  unfold Worker.begin
  split
  · exact stopped
  · cases message with
    | request ticket content =>
      cases content with
      | pair =>
        exact starts _ _ (worker.controller.perform_keeps worker.meshId .pair) rfl rfl rfl
      | light command =>
        exact starts _ _ (worker.controller.perform_keeps worker.meshId _) rfl rfl rfl
      | status =>
        exact starts _ _ (worker.controller.perform_keeps worker.meshId _) rfl rfl rfl
      | migrate credentials longTermKey =>
        exact starts _ _ (worker.controller.perform_keeps worker.meshId _) rfl rfl rfl
    | ready => exact starts _ _ worker.controller.greet_keeps rfl rfl rfl
    | shutdown => exact stopped

/-- A step of the worker. -/
theorem step (guarded : worker.Guarded) (discerning : worker.Discerning) {other : Worker Courier}
    (stepped : worker.step? Courier.transport = some other) : other.Guarded := by
  unfold step? at stepped
  split at stepped
  · split at stepped
    · cases stepped
    · rename_i message queue _
      cases stepped
      have taken : ({ worker with queue } : Worker Courier).Guarded :=
        guarded.later (.refl worker.world) rfl rfl
      exact Guarded.begin taken.sound message
  · cases stepped
    exact unbusy guarded.sound fun _ _ _ busy => by cases busy
  · rename_i ticket action next spent busy
    cases stepped
    obtain ⟨sound, safe⟩ := guarded.safe _ _ _ busy worker.world (.refl worker.world)
      (discerning.action busy)
    refine ⟨sound, fun _ _ _ same => ?_⟩
    cases same
    exact safe
  · rename_i ticket bound targets next spent busy
    obtain ⟨verdict, decided, rfl⟩ := Option.map_eq_some_iff.mp stepped
    have safe := guarded.safe _ _ _ busy worker.world (.refl worker.world)
    refine ⟨guarded.sound, fun _ _ _ same => ?_⟩
    cases same
    have decided : worker.world.tracker.verdict? targets = some verdict := decided
    rwa [decided] at safe
  · cases stepped

/-- A wait that runs into its bound. -/
theorem expire (guarded : worker.Guarded) {other : Worker Courier}
    (expired : worker.expire? = some other) : other.Guarded := by
  unfold expire? at expired
  split at expired
  · rename_i ticket bound targets next spent busy
    split at expired
    · cases expired
    · rename_i undecided
      cases expired
      have safe := guarded.safe _ _ _ busy worker.world (.refl worker.world)
      refine ⟨guarded.sound, fun _ _ _ same => ?_⟩
      cases same
      have undecided : worker.world.tracker.verdict? targets = none :=
        Option.not_isSome_iff_eq_none.mp undecided
      rwa [undecided] at safe
  · cases expired

/-- A message that is put into the queue. -/
theorem enqueue (guarded : worker.Guarded) (message : Message) :
    (worker.enqueue message).Guarded := by
  unfold Worker.enqueue
  split
  · exact guarded
  · exact guarded.later (.refl worker.world) rfl rfl

/-- A change of the connection: it may lose the link, and it may ask for a pairing. -/
theorem notice (guarded : worker.Guarded) (event : ConnectionEvent) :
    (worker.notice event).Guarded := by
  have lost (other : World Courier) (scene : other.scene =
      (Move.disturbance .linkLost).apply worker.world.scene) : worker.world.Precedes other :=
    ⟨[.disturbance .linkLost], scene⟩
  unfold Worker.notice
  split
  · dsimp only
    split
    · exact guarded.later (lost _ rfl) rfl rfl
    · exact guarded.later (lost _ rfl) rfl rfl
  · split
    · have asked : ({ worker with pairQueued := true } : Worker Courier).Guarded :=
        guarded.later (.refl worker.world) rfl rfl
      exact asked.enqueue .ready
    · exact guarded

/-- Whatever happens, the invariant stays. -/
theorem undergo (guarded : worker.Guarded) (discerning : worker.Discerning)
    (happening : Happening) : (worker.undergo happening).Guarded := by
  cases happening with
  | step =>
    cases stepped : worker.step? Courier.transport with
    | none => simpa [Worker.undergo, stepped] using guarded
    | some other => simpa [Worker.undergo, stepped] using guarded.step discerning stepped
  | expire =>
    cases expired : worker.expire? with
    | none => simpa [Worker.undergo, expired] using guarded
    | some other => simpa [Worker.undergo, expired] using guarded.expire expired
  | move content => exact guarded.later ⟨[content], rfl⟩ rfl rfl
  | submit request =>
    have numbered :
        ({ worker with nextTicket := worker.nextTicket + 1 } : Worker Courier).Guarded :=
      guarded.later (.refl worker.world) rfl rfl
    exact numbered.enqueue _
  | notice event => exact guarded.notice event
  | shutDown =>
    have cancelled : (worker.onTracker fun tracker => ((), tracker.cancel)).2.Guarded :=
      guarded.later ⟨[.disturbance .cancel], rfl⟩ rfl rfl
    exact cancelled.enqueue .shutdown

/-- The invariant holds after any number of happenings. -/
theorem live (guarded : worker.Guarded) (happenings : List Happening)
    (discerning : ∀ number, (worker.live (happenings.take number)).Discerning) :
    (worker.live happenings).Guarded := by
  induction happenings generalizing worker with
  | nil => exact guarded
  | cons happening happenings inductionHypothesis =>
    exact inductionHypothesis (guarded.undergo (discerning 0) happening) fun number =>
      discerning (number + 1)

/-- The invariant holds however the worker goes on by itself. -/
theorem proceeds (guarded : worker.Guarded) {later : Worker Courier}
    (goes : Proceeds Courier.transport worker later)
    (discerning : ∀ middle, Proceeds Courier.transport worker middle → middle.Discerning) :
    later.Guarded := by
  induction goes with
  | refl worker => exact guarded
  | step stepped _ inductionHypothesis =>
    exact inductionHypothesis (guarded.step (discerning _ (.refl _)) stepped) fun middle goes =>
      discerning middle (.step stepped goes)
  | expire expired _ inductionHypothesis =>
    exact inductionHypothesis (guarded.expire expired) fun middle goes =>
      discerning middle (.expire expired goes)
  | wait passed busy _ inductionHypothesis =>
    refine inductionHypothesis ⟨guarded.sound, fun ticket rest spent same => ?_⟩ fun middle goes =>
      discerning middle (.wait passed busy goes)
    cases same
    exact guarded.safe _ _ _ busy

/-- The invariant holds after any span of time. -/
theorem pass (guarded : worker.Guarded) (enough : Worker Courier → Bool) (span : Span)
    (discerning : ∀ middle, Proceeds Courier.transport worker middle → middle.Discerning) :
    (worker.pass Courier.transport enough span).Guarded :=
  guarded.proceeds (pass_proceeds Courier.transport enough span worker) discerning

end Guarded

/-- A worker that starts beside a fresh bulb. -/
def beside (settings : Settings) (unseeded : Random.Source) (bulb : BulbSettings) :
    Worker Courier :=
  .start settings unseeded { bulb := .ofSettings bulb }

/-- Two sides that have just started agree, because neither has a key. -/
theorem beside_guarded (settings : Settings) (unseeded : Random.Source) (bulb : BulbSettings) :
    (beside settings unseeded bulb).Guarded :=
  Guarded.unbusy ⟨nofun, rfl, nofun⟩ fun _ _ _ busy => by cases busy

end Worker

/-- In every state that a worker and its bulb reach, whatever happened to them and in whatever
order, a key on the side of the worker is the key of the bulb, and the link of the bulb is up.

The proof in a pair request has eight bytes only, so a bulb with another secret might take it for
its own by chance; the assumption is that this does not happen to the requests of this run. -/
theorem keys_agree (settings : Settings) (unseeded : Random.Source) (bulb : BulbSettings)
    (happenings : List Happening)
    (discerning : ∀ number,
      ((Worker.beside settings unseeded bulb).live (happenings.take number)).Discerning) :
    let worker := (Worker.beside settings unseeded bulb).live happenings
    ∀ key, worker.tracker.key = some key →
      worker.bulb.connected = true ∧ worker.bulb.key = some key :=
  ((Worker.beside_guarded settings unseeded bulb).live happenings discerning).sound.agreement

/-- The credentials of both sides of a pairing that nothing disturbs. -/
def calmCredentials : Credentials :=
  ⟨"a", "b", by decide +kernel, by decide +kernel⟩

/-- The two sides before a pairing that nothing disturbs. -/
def calmStart : Worker Courier :=
  let address : Address := ⟨Vector.replicate 6 1⟩
  .beside { address, credentials := calmCredentials } { word := fun _ => 7 }
    { address, credentials := calmCredentials }

/-- A pairing that nothing disturbs, up to the installation of the key. -/
def calmPairing : List Happening :=
  .submit .pair :: List.replicate 10 .step ++ .move (.deliver 0) :: List.replicate 7 .step ++
    .move (.deliver 0) :: List.replicate 7 .step ++ .move (.deliver 0) :: List.replicate 4 .step

/-- In a pairing that nothing disturbs, the one pair request carries a proof that is meant for the
bulb, and both sides end with the same key. -/
theorem keys_agree_calm :
    (∀ number, (calmStart.live (calmPairing.take number)).Discerning) ∧
      ∃ key, (calmStart.live calmPairing).tracker.key = some key ∧
        (calmStart.live calmPairing).bulb.connected = true ∧
        (calmStart.live calmPairing).bulb.key = some key := by
  have evaluated : (∀ number < 33,
      (calmStart.live (calmPairing.take number)).requesting? = none ∨ number = 9) ∧
        (calmStart.live calmPairing).isEstablished = true := by decide +kernel
  obtain ⟨unasked, established⟩ := evaluated
  have discerning (number : Nat) : (calmStart.live (calmPairing.take number)).Discerning := by
    intro random asks
    by_cases early : number < 33
    · rcases unasked number early with never | rfl
      · rw [never] at asks
        cases asks
      · exact fun _ => rfl
    · have length : calmPairing.length = 32 := rfl
      have whole : calmPairing.take number = calmPairing.take 32 := by
        rw [List.take_of_length_le (by omega), List.take_of_length_le (by omega)]
      rw [whole] at asks
      rcases unasked 32 (by decide) with never | impossible
      · rw [never] at asks
        cases asks
      · cases impossible
  obtain ⟨key, held⟩ := Option.isSome_iff_exists.mp established
  exact ⟨discerning, key, held,
    keys_agree _ _ _ calmPairing discerning key held⟩

end MeshLight.Session
