import MeshLight.Proofs.Frame.Pairing
import MeshLight.Proofs.Session.Pairing

/-!
# Fresh randoms give fresh keys

A pairing that succeeds leaves the key of two randoms: the one that the controller drew and the one
in the response of the light. Since a key tells both apart, two pairings with the same credentials
leave the same key exactly if both randoms repeat. This holds on every transport, whatever befalls
the tracker during the calls, and at whatever points of whatever runs the two pairings are made.
-/

namespace MeshLight.Session

open Link (Transport)

namespace Controller

variable {State : Type} (transport : Transport State) (controller : Controller)
  (world : World State)

/-- The light's random in a pairing: the one in the response that accepts. -/
def Answered (device : SessionRandom) : Prop :=
  ∃ response, ((controller.drawRandom.2.converse controller.drawRandom.1).run.finish transport
      (pairingBegun world)).1 = .ok response ∧
    Frame.decodePairResponse response = .ok (.accepted device)

variable {transport controller world}

/-- A response that gives a key accepts, and the key is that of its random. -/
theorem responseKey_ok {random : SessionRandom} {response : Bytes} {key : SessionKey}
    (given : controller.responseKey random response = .ok key) :
    ∃ device, Frame.decodePairResponse response = .ok (.accepted device) ∧
      key = Frame.deriveSessionKey controller.credentials random device := by
  unfold responseKey at given
  split at given
  · cases given
  · rename_i device accepted
    exact ⟨device, accepted, (Except.ok.inj given).symm⟩
  · cases given
  · cases given

/-- A conversation that gives a key has a response that accepts. -/
theorem handshake_ok {random : SessionRandom} {key : SessionKey}
    (given : ((controller.handshake random).run.finish transport world).1 = .ok key) :
    ∃ response device,
      ((controller.converse random).run.finish transport world).1 = .ok response ∧
        Frame.decodePairResponse response = .ok (.accepted device) ∧
        key = Frame.deriveSessionKey controller.credentials random device := by
  rw [finish_handshake_response] at given
  generalize (controller.converse random).run.finish transport world = conversed at given
  obtain ⟨_ | response, later⟩ := conversed
  · cases given
  · obtain ⟨device, accepted, keyIs⟩ := responseKey_ok given
    exact ⟨response, device, rfl, accepted, keyIs⟩

/-- An attempt that succeeds leaves the key that the conversation gave. -/
theorem attempt_ok {random : SessionRandom} {epoch : Nat}
    (succeeded : ((do
      let key ← controller.handshake random
      install key epoch : Attempt Unit).run.finish transport world).1 = .ok ()) :
    ∃ key, ((controller.handshake random).run.finish transport world).1 = .ok key ∧
      ((do
        let key ← controller.handshake random
        install key epoch : Attempt Unit).run.finish transport world).2.tracker.key = some key := by
  rw [Procedure.finish_attempt] at succeeded ⊢
  generalize (controller.handshake random).run.finish transport world = spoken at *
  obtain ⟨_ | key, later⟩ := spoken
  · cases succeeded
  · dsimp only at succeeded ⊢
    rw [finish_install] at succeeded ⊢
    split at succeeded
    · cases succeeded
    rename_i running
    split at succeeded
    · rename_i unmoved
      rw [if_neg running, if_pos unmoved]
      exact ⟨key, rfl, rfl⟩
    · cases succeeded

/-- A pairing that succeeds leaves the key of the random that the controller drew and of the random
that the light answered. -/
theorem pair_key (succeeded : (controller.pair.finish transport world).1.1 = .ok ()) :
    (controller.pair.finish transport world).1.2.lastRandom = some controller.drawRandom.1 ∧
      ∃ device, controller.Answered transport world device ∧
        (controller.pair.finish transport world).2.tracker.key =
          some (Frame.deriveSessionKey controller.credentials controller.drawRandom.1 device) := by
  rw [finish_pair] at succeeded ⊢
  dsimp only at succeeded ⊢
  obtain ⟨key, given, installed⟩ := attempt_ok succeeded
  obtain ⟨response, device, answered, accepted, keyIs⟩ := handshake_ok given
  refine ⟨rfl, device, ⟨response, answered, accepted⟩, ?_⟩
  rw [succeeded]
  exact installed.trans (congrArg some keyIs)

end Controller

/-- Fresh randoms give fresh keys.

With the same credentials two keys are the same exactly if both randoms are. So a swap of two
randoms that differ changes the key, and two pairings that succeed leave the same key exactly if the
controller drew the same random and the light answered with the same one. -/
theorem keys_fresh (credentials : Credentials) :
    (∀ controller device other another,
      Frame.deriveSessionKey credentials controller device =
          Frame.deriveSessionKey credentials other another ↔
        controller = other ∧ device = another) ∧
    (∀ first second, first ≠ second →
      Frame.deriveSessionKey credentials first second ≠
        Frame.deriveSessionKey credentials second first) ∧
    ∀ {State Other : Type} (transport : Transport State) (elsewhere : Transport Other)
      (first second : Controller) (world : World State) (later : World Other),
      let paired := first.pair.finish transport world
      let again := second.pair.finish elsewhere later
      first.credentials = credentials → second.credentials = credentials →
      paired.1.1 = .ok () → again.1.1 = .ok () →
      ∃ own device other another key fresh,
        paired.1.2.lastRandom = some own ∧ first.Answered transport world device ∧
        again.1.2.lastRandom = some other ∧ second.Answered elsewhere later another ∧
        paired.2.tracker.key = some key ∧ again.2.tracker.key = some fresh ∧
        (key = fresh ↔ own = other ∧ device = another) := by
  refine ⟨?_, ?_, ?_⟩
  · intro controller device other another
    exact Frame.deriveSessionKey_inj
  · intro first second different same
    exact different (Frame.deriveSessionKey_inj.mp same).1
  · intro State Other transport elsewhere first second world later paired again firstHas secondHas
      succeeded succeededToo
    obtain ⟨drawn, device, answered, key⟩ := Controller.pair_key succeeded
    obtain ⟨drawnToo, another, answeredToo, fresh⟩ := Controller.pair_key succeededToo
    refine ⟨_, device, _, another, _, _, drawn, answered, drawnToo, answeredToo, key, fresh, ?_⟩
    rw [firstHas, secondHas]
    exact Frame.deriveSessionKey_inj

end MeshLight.Session
