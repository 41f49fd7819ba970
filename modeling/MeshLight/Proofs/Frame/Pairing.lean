import MeshLight.Frame.Pairing
import MeshLight.Proofs.Bytes
import MeshLight.Proofs.Cipher.Permutation

/-!
# Pairing frames are read back

A request is its tag, a random and eight more bytes, and it is accepted exactly if these are the
proof of the accepting side under that random; what follows is not looked at. So the requests that
are accepted are those that begin with the encoding of their random. Of a response only the tag and
the random are read. Both sides see credentials through their secret, so whoever shares it derives
the same key from what the other one sent.

A key is the cipher of the two randoms side by side, and the block behind a proof is the cipher of
the secret. So a key tells apart all pairs of randoms, and such a block tells apart all secrets.
-/

namespace MeshLight.Frame

/-- A proof has eight bytes. -/
@[simp] theorem length_proof (credentials : Credentials) (random : SessionRandom) :
    (proof credentials random).length = 8 := by
  simp [proof]

/-- A request has seventeen bytes. -/
@[simp] theorem length_encodePairRequest (credentials : Credentials) (random : SessionRandom) :
    (encodePairRequest credentials random).length = 17 := by
  simp [encodePairRequest]

/-- Proofs depend on the credentials through their secret alone. -/
theorem proof_congr {first second : Credentials} (same : first.secret = second.secret)
    (random : SessionRandom) : proof first random = proof second random := by
  rw [proof, proof, proofBlock, proofBlock, same]

/-- So do keys. -/
theorem deriveSessionKey_congr {first second : Credentials} (same : first.secret = second.secret)
    (controller device : SessionRandom) :
    deriveSessionKey first controller device = deriveSessionKey second controller device := by
  rw [deriveSessionKey, deriveSessionKey, same]

/-- Frames of a pairing and the keys depend on the credentials through their secret alone. -/
theorem pairing_congr {first second : Credentials} (same : first.secret = second.secret) :
    encodePairRequest first = encodePairRequest second ∧
      decodePairRequest first = decodePairRequest second ∧
      encodePairResponse first = encodePairResponse second ∧
      deriveSessionKey first = deriveSessionKey second := by
  have proofs : proof first = proof second := funext (proof_congr same)
  refine ⟨?_, ?_, ?_, ?_⟩
  · funext random
    rw [encodePairRequest, encodePairRequest, proofs]
  · funext frame
    rw [decodePairRequest, decodePairRequest, proofs]
  · funext random
    rw [encodePairResponse, encodePairResponse, proofs]
  · funext controller device
    exact deriveSessionKey_congr same controller device

/-- The block behind a proof tells secrets apart. -/
theorem proofBlock_inj {first second : Credentials} {random : SessionRandom} :
    proofBlock first random = proofBlock second random ↔ first.secret = second.secret :=
  Cipher.encrypt_inj

/-- A key tells the randoms apart, each in its own half of the block. -/
theorem deriveSessionKey_inj {credentials : Credentials}
    {controller device other another : SessionRandom} :
    deriveSessionKey credentials controller device = deriveSessionKey credentials other another ↔
      controller = other ∧ device = another := by
  obtain ⟨controller⟩ := controller
  obtain ⟨device⟩ := device
  obtain ⟨other⟩ := other
  obtain ⟨another⟩ := another
  simp only [deriveSessionKey, SessionKey.mk.injEq, SessionRandom.mk.injEq, Cipher.encrypt_inj]
  rw [Bytes.fitted_inj (by simp) (by simp), List.append_eq_append_iff_of_size_eq_left (by simp),
    Vector.toList_inj, Vector.toList_inj]

/-- A request is accepted exactly if its proof is that of the accepting side. -/
theorem decodePairRequest_append (accepting asking : Credentials) (random : SessionRandom)
    (behind : Bytes) :
    decodePairRequest accepting (encodePairRequest asking random ++ behind) =
      if proof accepting random = proof asking random then .ok random
      else .error (.integrity (proof accepting random) (proof asking random)) := by
  have laidOut : encodePairRequest asking random ++ behind =
      pairRequestTag :: (random.bytes.toList ++ (proof asking random ++ behind)) := by
    simp [encodePairRequest]
  have enough : ¬(encodePairRequest asking random ++ behind).length < 17 := by simp
  have own : (⟨Bytes.fitted 8 ((encodePairRequest asking random ++ behind).drop 1)⟩ :
      SessionRandom) = random := by
    rw [laidOut, List.drop_one, List.tail_cons, Bytes.fitted_append]
  have carried : ((encodePairRequest asking random ++ behind).drop 9).take 8 =
      proof asking random := by
    rw [laidOut, List.drop_succ_cons, List.drop_left' (by simp), List.take_left' (by simp)]
  have tag : (encodePairRequest asking random ++ behind).headD 0 = pairRequestTag := by
    rw [laidOut, List.headD_cons]
  simp only [decodePairRequest, enough, if_false, own, carried, tag, ne_eq, not_true_eq_false]
  rw [ite_not]

/-- So it is with nothing behind it. -/
theorem decodePairRequest_encode (accepting asking : Credentials) (random : SessionRandom) :
    decodePairRequest accepting (encodePairRequest asking random) =
      if proof accepting random = proof asking random then .ok random
      else .error (.integrity (proof accepting random) (proof asking random)) := by
  simpa using decodePairRequest_append accepting asking random []

/-- A request that is accepted begins with the encoding of its random, and all that do are
accepted. -/
theorem decodePairRequest_ok_iff {credentials : Credentials} {frame : Bytes}
    {random : SessionRandom} :
    decodePairRequest credentials frame = .ok random ↔
      17 ≤ frame.length ∧ frame.take 17 = encodePairRequest credentials random := by
  constructor
  · intro decoded
    unfold decodePairRequest at decoded
    split at decoded
    · cases decoded
    rename_i enough
    dsimp only at decoded
    split at decoded
    · cases decoded
    rename_i tagged
    split at decoded
    · cases decoded
    rename_i proven
    cases decoded
    refine ⟨Nat.le_of_not_lt enough, ?_⟩
    cases frame with
    | nil => exact absurd (Nat.zero_lt_succ 16) enough
    | cons tag body =>
      have sixteen : 16 ≤ body.length := by
        rw [List.length_cons] at enough
        omega
      have first : tag = pairRequestTag := Decidable.not_not.mp tagged
      have own : (Bytes.fitted 8 body).toList = body.take 8 :=
        Bytes.fitted_toList 8 body (by omega)
      have carried : proof credentials ⟨Bytes.fitted 8 body⟩ = (body.drop 8).take 8 :=
        Decidable.not_not.mp proven
      calc
        (tag :: body).take 17 = tag :: (body.take 8 ++ (body.drop 8).take 8) := by
          rw [List.take_succ_cons, ← List.take_add]
        _ = encodePairRequest credentials ⟨Bytes.fitted 8 body⟩ := by
          rw [first, ← own, ← carried]
          rfl
  · rintro ⟨-, beginning⟩
    rw [← List.take_append_drop 17 frame, beginning, decodePairRequest_append, if_pos rfl]

/-- Of an accepting response the random is read and nothing behind it. -/
theorem decodePairResponse_accepted (random : SessionRandom) (behind : Bytes) :
    decodePairResponse (pairAcceptedTag :: (random.bytes.toList ++ behind)) =
      .ok (.accepted random) := by
  have enough : ¬(random.bytes.toList ++ behind).length < 8 := by simp
  simp only [decodePairResponse, if_true, enough, if_false, Bytes.fitted_append]

/-- The random of an accepting response is that of the bulb. -/
theorem decodePairResponse_encode (credentials : Credentials) (random : SessionRandom) :
    decodePairResponse (encodePairResponse credentials random) = .ok (.accepted random) :=
  decodePairResponse_accepted random _

/-- So it is if the response is cut off behind the random, whatever follows. -/
theorem decodePairResponse_cut (credentials : Credentials) (random : SessionRandom) {length : Nat}
    (enough : 9 ≤ length) (behind : Bytes) :
    decodePairResponse ((encodePairResponse credentials random).take length ++ behind) =
      .ok (.accepted random) := by
  obtain ⟨left, rfl⟩ := Nat.exists_eq_add_of_le enough
  have cut : (encodePairResponse credentials random).take (9 + left) =
      pairAcceptedTag :: (random.bytes.toList ++ (proof credentials random).take left) := by
    have place : 9 + left = random.bytes.toList.length + left + 1 := by
      rw [Vector.length_toList]
      omega
    rw [encodePairResponse, place, List.take_succ_cons, List.take_length_add_append]
  rw [cut, List.cons_append, List.append_assoc, decodePairResponse_accepted]

/-- Pairing frames are read back, and both sides of a pairing derive one key.

A request is accepted, with its random, exactly if it begins with the encoding of that random.
A response that still has its random is read as accepting, wherever it is cut off and whatever
follows. Two sides that share a secret read each other's frames, and the key that the one derives
from the response is the key that the other derives from the request. -/
theorem pairingFrames_canonical (credentials : Credentials) :
    (∀ random behind,
      decodePairRequest credentials (encodePairRequest credentials random ++ behind) =
        .ok random) ∧
      (∀ random length behind, 9 ≤ length →
        decodePairResponse ((encodePairResponse credentials random).take length ++ behind) =
          .ok (.accepted random)) ∧
      (∀ frame random, decodePairRequest credentials frame = .ok random ↔
        17 ≤ frame.length ∧ frame.take 17 = encodePairRequest credentials random) ∧
      ∀ device : Credentials, credentials.secret = device.secret → ∀ asked answered,
        ∃ received told,
          decodePairRequest device (encodePairRequest credentials asked) = .ok received ∧
            decodePairResponse (encodePairResponse device answered) = .ok (.accepted told) ∧
            deriveSessionKey credentials asked told =
              deriveSessionKey device received answered := by
  refine ⟨?_, ?_, ?_, ?_⟩
  · intro random behind
    rw [decodePairRequest_append, if_pos rfl]
  · intro random length behind enough
    exact decodePairResponse_cut credentials random enough behind
  · intro frame random
    exact decodePairRequest_ok_iff
  · intro device shared asked answered
    have received : decodePairRequest device (encodePairRequest credentials asked) = .ok asked := by
      rw [decodePairRequest_encode, if_pos (proof_congr shared.symm asked)]
    exact ⟨asked, answered, received, decodePairResponse_encode device answered,
      deriveSessionKey_congr shared asked answered⟩

end MeshLight.Frame
