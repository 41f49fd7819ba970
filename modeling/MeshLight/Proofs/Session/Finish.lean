import MeshLight.Session.Procedure

/-!
# Running procedures to their end

Every operation on a light is put together with `bind` from single actions and waits. The laws below
run it piece by piece: a procedure behind another one is run from the world that the first one left,
and a single action is performed at once. With them an operation is evaluated by rewriting and its
tree is never opened.

A failed attempt skips what stands behind it; that is the law for attempts.
-/

namespace MeshLight.Session

open Link (Phase Transport)
open Report (Event Count)

variable {State First Second : Type}

namespace World

variable (world : World State)

/-- The world with another tracker. -/
def withTracker (tracker : Link.Tracker) : World State :=
  { world with tracker }

@[simp] theorem withTracker_tracker (tracker : Link.Tracker) :
    (world.withTracker tracker).tracker = tracker := rfl

@[simp] theorem withTracker_transport (tracker : Link.Tracker) :
    (world.withTracker tracker).transport = world.transport := rfl

@[simp] theorem withTracker_withTracker (first second : Link.Tracker) :
    (world.withTracker first).withTracker second = world.withTracker second := rfl

end World

namespace Procedure

variable (transport : Transport State) (world : World State)

/-- A result that stands at the end changes nothing. -/
@[simp] theorem finish_pure (result : First) :
    (pure result : Procedure First).finish transport world = (result, world) := rfl

/-- A procedure behind another one runs in the world that the first one left.

The induction is on the first tree; each action and each wait hands its own reply on. -/
@[simp] theorem finish_bind (first : Procedure First) (second : First → Procedure Second) :
    (first >>= second).finish transport world =
      (second (first.finish transport world).1).finish transport
        (first.finish transport world).2 := by
  change (first.bind second).finish transport world = _
  induction first generalizing world with
  | done result => rfl
  | act action next inductionHypothesis =>
    exact inductionHypothesis _ (action.perform transport world).2
  | await bound targets next inductionHypothesis =>
    exact inductionHypothesis _ world

/-- What follows an attempt runs if the attempt succeeds; otherwise its failure is the end. -/
@[simp] theorem finish_attempt {Failure : Type} (first : ExceptT Failure Procedure First)
    (second : First → ExceptT Failure Procedure Second) :
    (first >>= second).run.finish transport world =
      match first.run.finish transport world with
      | (.ok result, later) => (second result).run.finish transport later
      | (.error failure, later) => (.error failure, later) := by
  change (first.run >>= _).finish transport world = _
  rw [finish_bind]
  rcases first.run.finish transport world with ⟨result, later⟩
  cases result with
  | ok result => rfl
  | error failure => rfl

@[simp] theorem finish_reset :
    reset.finish transport world = ((), world.withTracker world.tracker.reset) := rfl

@[simp] theorem finish_setPhase (phase : Phase) :
    (setPhase phase).finish transport world =
      ((), world.withTracker (world.tracker.setPhase phase)) := rfl

@[simp] theorem finish_lossCount :
    lossCount.finish transport world = (world.tracker.epoch, world) := rfl

@[simp] theorem finish_takeResponse :
    takeResponse.finish transport world =
      (world.tracker.response, world.withTracker world.tracker.takeResponse.2) := rfl

@[simp] theorem finish_takeError :
    takeError.finish transport world =
      (world.tracker.error, world.withTracker world.tracker.takeError.2) := rfl

@[simp] theorem finish_sessionKey :
    sessionKey.finish transport world = (world.tracker.key, world) := rfl

@[simp] theorem finish_installKey (key : SessionKey) (epoch : Nat) :
    (installKey key epoch).finish transport world =
      ((world.tracker.installKey key epoch).1,
        world.withTracker (world.tracker.installKey key epoch).2) := rfl

@[simp] theorem finish_clearKey :
    clearKey.finish transport world =
      (world.tracker.key.isSome, world.withTracker world.tracker.clearKey.2) := rfl

@[simp] theorem finish_isCancelled :
    isCancelled.finish transport world = (world.tracker.cancelled, world) := rfl

@[simp] theorem finish_emit (event : Event) :
    (emit event).finish transport world = ((), world.emit event) := rfl

@[simp] theorem finish_count (counted : Count) :
    (count counted).finish transport world = ((), world.count counted) := rfl

@[simp] theorem finish_disconnect :
    disconnect.finish transport world = ((), world.onTransport transport.disconnect) := rfl

/-- A wait that nothing decides runs into its bound. -/
@[simp] theorem finish_wait (bound : Nat) (targets : List Phase) :
    (wait bound targets).finish transport world =
      ((world.tracker.verdict? targets).getD .timedOut, world) := rfl

end Procedure

end MeshLight.Session
