import MeshLight.Proofs.Session.Lamp

/-!
# What a pairing knows of credentials

Credentials enter a pairing through their secret alone, on both sides. So credentials with one
secret stand in for each other: the frames are the same, they are accepted alike, and a controller
with the ones pairs with a bulb that has the others. Such credentials are easily found, since the
secret is a sum of two fields that are filled up with zeros: the texts may be swapped, zeros may be
added behind them, and all credentials whose texts are the same have the secret zero.

Secrets that differ are told apart by the whole block behind every proof. Half of the block is
compared, and that half may still agree by chance.
-/

namespace MeshLight

namespace Bytes

/-- Whether bytes are the same but for zeros at their ends. -/
def SameButZeros (first second : Bytes) : Prop :=
  ∃ zeros others, first ++ List.replicate zeros 0 = second ++ List.replicate others 0

/-- Fields do not see zeros at the end. -/
theorem SameButZeros.fitted {first second : Bytes} (same : SameButZeros first second)
    (size : Nat) : fitted size first = fitted size second := by
  obtain ⟨zeros, others, alike⟩ := same
  rw [← fitted_zeros size first zeros, alike, fitted_zeros]

end Bytes

namespace Credentials

variable {first second : Credentials}

/-- The texts may be swapped. -/
theorem secret_swapped (name : first.name = second.password)
    (password : first.password = second.name) : first.secret = second.secret := by
  rw [secret, secret, name, password, Cipher.Block.exclusiveOr_comm]

/-- Zeros behind the texts make no difference. -/
theorem secret_zeros (name : (Bytes.ofText first.name).SameButZeros (Bytes.ofText second.name))
    (password : (Bytes.ofText first.password).SameButZeros (Bytes.ofText second.password)) :
    first.secret = second.secret := by
  rw [secret, secret, name.fitted, password.fitted]

/-- If the name is the password, the secret is zero. -/
theorem secret_doubled (same : first.name = first.password) :
    first.secret = Vector.replicate 16 0 := by
  rw [secret, same]
  apply Cipher.Block.ext_get
  intro position
  rw [Cipher.Block.get_exclusiveOr, UInt8.xor_self]
  exact (Vector.getElem_replicate position.isLt).symm

end Credentials

namespace Session

/-- A controller has the same conversation with other credentials that have its secret. -/
theorem Controller.handshake_congr {controller other : Controller}
    (same : controller.credentials.secret = other.credentials.secret)
    (address : controller.address = other.address) (bound : controller.bound = other.bound) :
    controller.handshake = other.handshake := by
  obtain ⟨requests, -, -, keys⟩ := Frame.pairing_congr same
  funext random
  simp only [handshake, write, read, requests, keys, address, bound]

/-- What a pairing knows of credentials is their secret.

Credentials have one secret in particular if their texts are swapped, if their texts are the same
but for zeros at their ends, or if in both of them the name is the password. Credentials with one
secret make and accept the same frames of a pairing and give the same keys; a controller has the
same conversation with either of them, and if it has the ones and a bulb in calm has the others,
they pair and hold one key. If the secrets differ, then so do the blocks that the proofs are cut
from, under every random; a proof is the first eight bytes of its block. -/
theorem pairing_knows_secret (first second : Credentials) :
    ((first.name = second.password ∧ first.password = second.name) ∨
        ((Bytes.ofText first.name).SameButZeros (Bytes.ofText second.name) ∧
          (Bytes.ofText first.password).SameButZeros (Bytes.ofText second.password)) ∨
        (first.name = first.password ∧ second.name = second.password) →
      first.secret = second.secret) ∧
    (first.secret = second.secret →
      Frame.encodePairRequest first = Frame.encodePairRequest second ∧
        Frame.decodePairRequest first = Frame.decodePairRequest second ∧
        Frame.encodePairResponse first = Frame.encodePairResponse second ∧
        Frame.deriveSessionKey first = Frame.deriveSessionKey second ∧
        (∀ controller : Controller, { controller with credentials := first }.handshake =
          { controller with credentials := second }.handshake) ∧
        ∀ (controller : Controller) (world : World Bulb), controller.credentials = first →
          world.transport.credentials = second → Calm world →
            ∃ later key, controller.pair.finish Bulb.transport world =
                ((.ok (), controller.drawRandom.2), later) ∧
              later.tracker.key = some key ∧ later.transport.key = some key) ∧
    (first.secret ≠ second.secret → ∀ random,
      Frame.proofBlock first random ≠ Frame.proofBlock second random) ∧
    ∀ credentials random,
      Frame.proof credentials random = (Frame.proofBlock credentials random).toList.take 8 := by
  refine ⟨?_, fun shared => ?_, fun different random same => ?_, fun _ _ => rfl⟩
  · rintro (⟨name, password⟩ | ⟨name, password⟩ | ⟨one, other⟩)
    · exact Credentials.secret_swapped name password
    · exact Credentials.secret_zeros name password
    · rw [Credentials.secret_doubled one, Credentials.secret_doubled other]
  · obtain ⟨requests, accepts, responses, keys⟩ := Frame.pairing_congr shared
    refine ⟨requests, accepts, responses, keys, fun controller => ?_, ?_⟩
    · exact Controller.handshake_congr shared rfl rfl
    · rintro controller world rfl rfl calm
      obtain ⟨later, key, finished, -, -, held, heldThere⟩ :=
        controller.finish_calm_shared world calm shared.symm
      exact ⟨later, key, finished, held, heldThere⟩
  · exact different (Frame.proofBlock_inj.mp same)

/-- A controller with the name and the password swapped pairs with a bulb, and with another password
its proofs are cut from other blocks. -/
theorem pairing_knows_secret_swapped :
    let swapped : Credentials := ⟨"word", "mesh", by decide, by decide⟩
    let wrong : Credentials := ⟨"mesh", "ward", by decide, by decide⟩
    let controller : Controller := { someController with credentials := swapped }
    let world : World Bulb := { transport := Bulb.new someLight { word := fun _ => 5 } }
    Calm world ∧
      (∃ later key, controller.pair.finish Bulb.transport world =
          ((.ok (), controller.drawRandom.2), later) ∧
        later.tracker.key = some key ∧ later.transport.key = some key) ∧
      ∀ random, Frame.proofBlock wrong random ≠ Frame.proofBlock someLight.credentials random := by
  intro swapped wrong controller world
  have calm : Calm world := ⟨rfl, rfl, rfl⟩
  obtain ⟨sameSecret, pairs, -, -⟩ := pairing_knows_secret swapped someLight.credentials
  obtain ⟨-, -, -, -, -, paired⟩ := pairs (sameSecret (.inl ⟨rfl, rfl⟩))
  obtain ⟨-, -, apart, -⟩ := pairing_knows_secret wrong someLight.credentials
  have different : wrong.secret ≠ someLight.credentials.secret := by decide +kernel
  exact ⟨calm, paired controller world rfl rfl calm, apart different⟩

end Session

end MeshLight
