import MeshLight.Proofs.Session.Steps
import MeshLight.Session.Controller

/-!
# Giving up

What the policy for a failed operation does to the world, on a transport that follows a script. A
cancelled controller touches nothing. Otherwise the tracker begins anew, and the link is dropped
exactly if the failure asks for it; the key goes first, so no disturbance of the call that drops the
link can bring one back.
-/

namespace MeshLight.Session

open Link (Tracker Script Contact)

namespace Controller

/-- The tracker that a request to drop the link finds. -/
def dropping (tracker : Tracker) : Tracker :=
  { tracker with phase := .fail, key := none }

/-- The world after the link was dropped because of a failure. -/
def dropped (script : Script) (world : World (List Contact)) : World (List Contact) :=
  { tracker :=
      ((dropping world.tracker).disturb (script world.transport.length).disturbances).reset
    transport := world.transport ++ [.disconnect (dropping world.tracker)]
    events := world.events ++ if world.tracker.key.isSome then [.disconnected] else []
    counts := world.counts ++ if world.tracker.key.isSome then [.disconnect] else [] }

variable (script : Script) (failure : Failure) (world : World (List Contact))

/-- A cancelled controller touches nothing. -/
theorem finish_abort_cancelled (torn : world.tracker.cancelled = true) :
    (abort failure).finish script.transport world = ((), world) := by
  simp [abort, torn]

/-- A failure that leaves the link alone only begins a new cycle. -/
theorem finish_abort_kept (running : world.tracker.cancelled = false)
    (kept : failure.requiresDisconnect = false) :
    (abort failure).finish script.transport world =
      ((), world.withTracker world.tracker.reset) := by
  simp only [abort, Procedure.finish_bind, Procedure.finish_isCancelled, running, kept,
    Procedure.finish_setPhase, Procedure.finish_reset, Bool.false_eq_true, if_false,
    World.withTracker_tracker, World.withTracker_withTracker]
  rfl

/-- A failure that costs the connection drops the key and then the link. -/
theorem finish_abort_dropped (running : world.tracker.cancelled = false)
    (asked : failure.requiresDisconnect = true) :
    (abort failure).finish script.transport world = ((), dropped script world) := by
  simp only [abort, disconnect, Procedure.finish_bind, Procedure.finish_isCancelled, running, asked,
    Procedure.finish_setPhase, Procedure.finish_clearKey, Procedure.finish_disconnect,
    Bool.false_eq_true, if_false, if_true, World.withTracker_tracker]
  cases held : world.tracker.key.isSome <;>
    simp [Tracker.setPhase, held, dropped, dropping, Tracker.clearKey, World.onTransport,
      Script.transport, World.withTracker, World.count, World.emit]

/-- What giving up changes in the world. The link is dropped once if the failure asks for it and
nobody tore the tracker down; the key goes with the link and stays otherwise. Nothing is left over,
and a tracker that was torn down has no key. -/
structure GivenUp (failure : Failure) (world later : World (List Contact)) : Prop where
  calls : later.transport.map Contact.access? = world.transport.map Contact.access? ++
    if world.tracker.cancelled = false ∧ failure.requiresDisconnect = true then [none] else []
  key : later.tracker.key =
    if world.tracker.cancelled = false ∧ failure.requiresDisconnect = true then none
    else world.tracker.key
  idle : Idle world.tracker → Idle later.tracker
  torn : Sealed world.tracker → Sealed later.tracker

/-- The policy does this and nothing else, whatever happens while the link is dropped. -/
theorem abort_gives_up :
    GivenUp failure world ((abort failure).finish script.transport world).2 := by
  cases mark : world.tracker.cancelled with
  | true =>
    rw [finish_abort_cancelled script failure world mark]
    exact ⟨by simp [mark], by simp [mark], id, id⟩
  | false =>
    cases asked : failure.requiresDisconnect with
    | false =>
      rw [finish_abort_kept script failure world mark asked]
      refine ⟨by simp [asked], by simp [asked, Tracker.reset], fun _ => ⟨rfl, rfl, rfl⟩, ?_⟩
      intro _ torn
      simp [Tracker.reset, mark] at torn
    | true =>
      rw [finish_abort_dropped script failure world mark asked]
      refine ⟨?_, ?_, fun _ => ⟨rfl, rfl, rfl⟩, ?_⟩
      · simp [dropped, mark, asked, Contact.access?]
      · simp [dropped, dropping, Tracker.reset, mark, asked]
      · intro _ _
        simp [dropped, dropping, Tracker.reset]

/-- The policy reports at most that the link was dropped. -/
theorem abort_reports :
    ∃ reported, ((abort failure).finish script.transport world).2.events =
        world.events ++ reported ∧ ∀ event ∈ reported, event = .disconnected := by
  cases mark : world.tracker.cancelled with
  | true =>
    rw [finish_abort_cancelled script failure world mark]
    exact ⟨[], (List.append_nil _).symm, nofun⟩
  | false =>
    cases asked : failure.requiresDisconnect with
    | false =>
      rw [finish_abort_kept script failure world mark asked]
      exact ⟨[], (List.append_nil _).symm, nofun⟩
    | true =>
      rw [finish_abort_dropped script failure world mark asked]
      refine ⟨_, rfl, fun event among => ?_⟩
      split at among
      · exact List.mem_singleton.mp among
      · cases among

end Controller

/-- What the conclusion of an operation changes in the world: a failure that costs the connection
drops the link, once, and the key with it, and any other result leaves both alone. Nothing is left
over, and a tracker that was torn down has no key. -/
structure Concluded {Value : Type} (result : Except Failure Value)
    (world later : World (List Contact)) : Prop where
  calls : later.transport.map Contact.access? = world.transport.map Contact.access? ++
    if dropsLink result = true then [none] else []
  key : later.tracker.key = if dropsLink result = true then none else world.tracker.key
  idle : Idle world.tracker → Idle later.tracker
  torn : Sealed world.tracker → Sealed later.tracker

namespace Concluded

variable {Value : Type} {world reported later : World (List Contact)}

/-- A success is concluded by reports alone. -/
theorem of_success (value : Value) (tracker : later.tracker = world.tracker)
    (transport : later.transport = world.transport) :
    Concluded (.ok value : Except Failure Value) world later := by
  refine ⟨?_, ?_, ?_, ?_⟩
  · simp [transport, dropsLink]
  · simp [tracker, dropsLink]
  · rw [tracker]
    exact id
  · rw [tracker]
    exact id

/-- A failure is reported and then given up. One that costs the connection never meets a tracker
that was torn down, so nothing keeps the policy from dropping the link. -/
theorem of_failure (script : Script) (failure : Failure)
    (ended : Ended (.error failure : Except Failure Value) world)
    (tracker : reported.tracker = world.tracker)
    (transport : reported.transport = world.transport) :
    Concluded (.error failure : Except Failure Value) world
      ((Controller.abort failure).finish script.transport reported).2 := by
  have givenUp := Controller.abort_gives_up script failure reported
  have asked : (reported.tracker.cancelled = false ∧ failure.requiresDisconnect = true) ↔
      dropsLink (.error failure : Except Failure Value) = true := by
    rw [tracker]
    exact ⟨fun both => both.2, fun drop => ⟨ended.dropping drop, drop⟩⟩
  refine ⟨?_, ?_, fun idle => givenUp.idle (tracker ▸ idle),
    fun torn => givenUp.torn (tracker ▸ torn)⟩
  · rw [givenUp.calls, transport]
    simp only [asked]
  · rw [givenUp.key, tracker]
    simp only [← tracker, asked]

end Concluded

end MeshLight.Session
