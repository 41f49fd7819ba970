import MeshLight.Proofs.Session.Policy

/-!
# Conversations

A conversation is any number of operations of one controller, in any order, each run to its end.
Between two of them other things may befall the tracker; what those are is left open here. What
holds of a single operation on a tracker with nothing left over holds at every point of a
conversation, because every operation leaves such a tracker.
-/

namespace MeshLight.Session

open Link (Disturbance Tracker Transport Script Contact)

/-- The next thing to happen in a conversation: an operation, or an incident between two of them. -/
inductive Order (Incident : Type) where
  | operation (meshId : UInt16) (request : Request)
  | between (incident : Incident)

/-- A controller and its world between two operations, with the results so far, oldest first. -/
structure Conversation (State : Type) where
  controller : Controller
  world : World State
  results : List Result := []

namespace Conversation

variable {State Incident : Type}

/-- A conversation that has not begun. -/
def start (controller : Controller) (transport : State) : Conversation State :=
  { controller, world := { transport } }

/-- Carries out an order. -/
def obey (transport : Transport State) (befall : Incident → State × Tracker → State × Tracker)
    (conversation : Conversation State) : Order Incident → Conversation State
  | .operation meshId request =>
    let ((result, controller), world) :=
      (conversation.controller.perform meshId request).finish transport conversation.world
    { controller, world, results := conversation.results ++ [result] }
  | .between incident =>
    { conversation with world := conversation.world.onTransport (befall incident) }

/-- Carries out orders, first one first. -/
def run (transport : Transport State) (befall : Incident → State × Tracker → State × Tracker)
    (conversation : Conversation State) (orders : List (Order Incident)) : Conversation State :=
  orders.foldl (obey transport befall) conversation

/-- An order and then the others. -/
@[simp] theorem run_cons (transport : Transport State)
    (befall : Incident → State × Tracker → State × Tracker) (conversation : Conversation State)
    (order : Order Incident) (orders : List (Order Incident)) :
    conversation.run transport befall (order :: orders) =
      (conversation.obey transport befall order).run transport befall orders := rfl

@[simp] theorem run_nil (transport : Transport State)
    (befall : Incident → State × Tracker → State × Tracker) (conversation : Conversation State) :
    conversation.run transport befall [] = conversation := rfl

end Conversation

/-! ## Scripted conversations -/

/-- A disturbance changes the tracker and is no contact. -/
def disturbed (disturbance : Disturbance) : List Contact × Tracker → List Contact × Tracker
  | (contacts, tracker) => (contacts, disturbance.apply tracker)

namespace Conversation

variable {script : Script} {conversation : Conversation (List Contact)}

/-- Between two operations nothing is left over, and a tracker that was torn down has no key. -/
structure Orderly (conversation : Conversation (List Contact)) : Prop where
  idle : Idle conversation.world.tracker
  torn : Sealed conversation.world.tracker

/-- A conversation begins orderly. -/
theorem start_orderly (controller : Controller) (contacts : List Contact) :
    (start controller contacts).Orderly :=
  ⟨⟨rfl, rfl, rfl⟩, nofun⟩

/-- A disturbance without an operation under way leaves nothing over and drops the key. -/
theorem disturb_orderly (orderly : conversation.Orderly) (disturbance : Disturbance) :
    (conversation.obey script.transport disturbed (.between disturbance)).Orderly := by
  obtain ⟨⟨phase, response, error⟩, -⟩ := orderly
  cases disturbance with
  | linkLost =>
    have calm : conversation.world.tracker.phase ≠ .queued := by simp [phase]
    simp only [obey, World.onTransport, disturbed, Disturbance.apply, Tracker.linkLost, calm,
      if_false]
    exact ⟨⟨phase, response, error⟩, fun _ => rfl⟩
  | cancel => exact ⟨⟨phase, rfl, error⟩, fun _ => rfl⟩

/-- Every order keeps a conversation orderly. -/
theorem obey_orderly (orderly : conversation.Orderly) (order : Order Disturbance) :
    (conversation.obey script.transport disturbed order).Orderly := by
  cases order with
  | operation meshId request =>
    have handled := conversation.controller.perform_handled script conversation.world meshId request
      orderly.idle orderly.torn
    exact ⟨handled.idle, handled.torn⟩
  | between disturbance => exact disturb_orderly orderly disturbance

/-- A conversation stays orderly. -/
theorem run_orderly (orderly : conversation.Orderly) (orders : List (Order Disturbance)) :
    (conversation.run script.transport disturbed orders).Orderly := by
  induction orders generalizing conversation with
  | nil => exact orderly
  | cons order orders inductionHypothesis =>
    exact inductionHypothesis (obey_orderly orderly order)

end Conversation

/-- Calls that were accesses, and then one request to drop the link or none. -/
theorem drops_of_calls {before after : List Contact} {accesses : List Link.Access} {drops : Bool}
    (calls : after.map Contact.access? = before.map Contact.access? ++ accesses.map some ++
      if drops = true then [none] else []) :
    after.countP Contact.isDisconnect =
      before.countP Contact.isDisconnect + if drops = true then 1 else 0 := by
  have counted (contacts : List Contact) :
      contacts.countP Contact.isDisconnect =
        (contacts.map Contact.access?).countP Option.isNone := by
    rw [List.countP_map]
    congr 1
    funext contact
    cases contact <;> rfl
  rw [counted, counted, calls]
  cases drops <;> simp [List.countP_append]

/-- The failure policy, at every point of every conversation and for every operation. A failed
operation drops the link once if its failure asks for it and not at all otherwise; it leaves no key,
unless credentials were refused, which leaves the slot as it was; the credentials stay, and nothing
is left in the tracker. An operation that succeeds does not drop the link. -/
theorem failure_policy (script : Script) (controller : Controller)
    (orders : List (Order Disturbance)) (meshId : UInt16) (request : Request) :
    let reached := (Conversation.start controller []).run script.transport disturbed orders
    let performed := (reached.controller.perform meshId request).finish script.transport
      reached.world
    let drops (contacts : List Contact) := contacts.countP Contact.isDisconnect
    (∀ failure, performed.1.1 = .error failure →
      drops performed.2.transport =
          drops reached.world.transport + (if failure.requiresDisconnect = true then 1 else 0) ∧
        ((∃ fault, failure = .invalidCredentials fault) →
          performed.2.tracker.key = reached.world.tracker.key) ∧
        ((¬∃ fault, failure = .invalidCredentials fault) → performed.2.tracker.key = none) ∧
        performed.1.2.credentials = reached.controller.credentials ∧
        Idle performed.2.tracker) ∧
    (∀ answer, performed.1.1 = .ok answer →
      drops performed.2.transport = drops reached.world.transport) := by
  intro reached performed drops
  have orderly : reached.Orderly :=
    Conversation.run_orderly (Conversation.start_orderly controller []) orders
  have handled : Handled performed.1.1 reached.controller performed.1.2 reached.world performed.2 :=
    reached.controller.perform_handled script reached.world meshId request orderly.idle orderly.torn
  obtain ⟨accesses, calls⟩ := handled.calls
  have dropped := drops_of_calls calls
  refine ⟨fun failure failed => ⟨?_, ?_, ?_, ?_, handled.idle⟩, fun answer succeeded => ?_⟩
  · rw [failed] at dropped
    exact dropped
  · rintro ⟨fault, rfl⟩
    exact handled.key _ failed
  · intro genuine
    have key := handled.key failure failed
    cases failure with
    | invalidCredentials fault => exact (genuine ⟨fault, rfl⟩).elim
    | _ => exact key
  · exact handled.credentials failure failed
  · rw [succeeded] at dropped
    exact dropped

end MeshLight.Session
