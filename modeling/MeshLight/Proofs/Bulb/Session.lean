import MeshLight.Bulb.Link
import MeshLight.Proofs.Frame.Pairing

/-!
# The session of a bulb

What reads and writes do to the link and the key of a bulb. Only a pair request changes the key, and
nothing but the link itself takes the link away. The answer that waits after a pair request fits the
key: whoever reads an accepting response and derives a key with the credentials and the random of
the request gets the key of the bulb, provided the proof in the request was not by chance also that
of other credentials.
-/

namespace MeshLight

namespace Frame

/-- The random of a value that asks for a pairing. -/
def requestRandom? (value : Bytes) : Option SessionRandom :=
  if value.head? = some pairRequestTag then some ⟨Bytes.fitted 8 (value.drop 1)⟩ else none

/-- A pair request carries its random. -/
theorem requestRandom?_encode (credentials : Credentials) (random : SessionRandom) :
    requestRandom? (encodePairRequest credentials random) = some random := by
  simp [requestRandom?, encodePairRequest]

end Frame

namespace Bulb

open Link (Characteristic Report)

/-- A bulb whose link is up, and whose key is the one that a controller derives from some bytes if
they are an accepting response. -/
structure Vouches (credentials : Credentials) (random : SessionRandom) (bytes : Bytes)
    (bulb : Bulb) : Prop where
  connected : bulb.connected = true
  key : ∀ device, Frame.decodePairResponse bytes = .ok (.accepted device) →
    bulb.key = some (Frame.deriveSessionKey credentials random device)

/-- The proof in a request is not by chance that of a bulb with another secret. -/
def Discerns (credentials : Credentials) (random : SessionRandom) (bulb : Bulb) : Prop :=
  Frame.proof credentials random = Frame.proof bulb.credentials random →
    credentials.secret = bulb.credentials.secret

/-- A mesh update that is adopted or refused touches neither link nor key. -/
theorem adopt_frame (name password : Cipher.Block) (bulb : Bulb) :
    (bulb.adopt name password).connected = bulb.connected ∧
      (bulb.adopt name password).faults = bulb.faults ∧
      (bulb.adopt name password).key = bulb.key := by
  unfold adopt
  split
  · exact ⟨rfl, rfl, rfl⟩
  · split <;> exact ⟨rfl, rfl, rfl⟩

/-- Nor does it touch the stage. -/
theorem adopt_stage (name password : Cipher.Block) (bulb : Bulb) :
    (bulb.adopt name password).stage = bulb.stage := by
  unfold adopt
  split
  · rfl
  · split <;> rfl

/-- Nor does a field that is staged. -/
theorem stageField_frame (field : MeshField) (block : Cipher.Block) (bulb : Bulb) :
    (bulb.stageField field block).connected = bulb.connected ∧
      (bulb.stageField field block).faults = bulb.faults ∧
      (bulb.stageField field block).key = bulb.key := by
  unfold stageField
  dsimp only
  split
  · exact adopt_frame _ _ _
  · exact ⟨rfl, rfl, rfl⟩

/-- A write leaves the link and the faults alone, and only a pair request touches the key. -/
theorem writePairing_frame (value : Bytes) (bulb : Bulb) :
    (bulb.writePairing value).connected = bulb.connected ∧
      (bulb.writePairing value).faults = bulb.faults ∧
      (Frame.requestRandom? value = none → (bulb.writePairing value).key = bulb.key) := by
  unfold writePairing
  split
  · rename_i asks
    have answered : (bulb.answerPairRequest value).connected = bulb.connected ∧
        (bulb.answerPairRequest value).faults = bulb.faults := by
      unfold answerPairRequest
      split <;> exact ⟨rfl, rfl⟩
    exact ⟨answered.1, answered.2, fun other => by simp [Frame.requestRandom?, asks] at other⟩
  · split
    · exact ⟨rfl, rfl, fun _ => rfl⟩
    · split
      · obtain ⟨connected, faults, key⟩ := stageField_frame _ _ bulb
        exact ⟨connected, faults, fun _ => key⟩
      · exact ⟨rfl, rfl, fun _ => rfl⟩

/-- A write as the transport takes it. -/
theorem write_frame (characteristic : Characteristic) (value : Bytes) (bulb : Bulb) :
    (bulb.write characteristic value).2.connected = bulb.connected ∧
      (bulb.write characteristic value).2.faults = bulb.faults ∧
      ((characteristic = .pairing → Frame.requestRandom? value = none) →
        (bulb.write characteristic value).2.key = bulb.key) := by
  unfold write
  split
  · exact ⟨rfl, rfl, fun _ => rfl⟩
  · split
    · exact ⟨rfl, rfl, fun _ => rfl⟩
    · split
      · cases characteristic with
        | pairing =>
          obtain ⟨connected, faults, key⟩ := writePairing_frame value bulb.countWrite
          exact ⟨connected, faults, fun other => key (other rfl)⟩
        | status => exact ⟨rfl, rfl, fun _ => rfl⟩
        | command =>
          unfold writeCommand
          dsimp only
          split <;> exact ⟨rfl, rfl, fun _ => rfl⟩
      · exact ⟨rfl, rfl, fun _ => rfl⟩

/-- A read leaves the link, the faults and the key alone. -/
theorem read_frame (characteristic : Characteristic) (bulb : Bulb) :
    (bulb.read characteristic).2.connected = bulb.connected ∧
      (bulb.read characteristic).2.faults = bulb.faults ∧
      (bulb.read characteristic).2.key = bulb.key := by
  unfold read
  split
  · exact ⟨rfl, rfl, rfl⟩
  · split
    · exact ⟨rfl, rfl, rfl⟩
    · split
      · cases characteristic with
        | pairing =>
          unfold readPairing
          dsimp only
          split <;> exact ⟨rfl, rfl, rfl⟩
        | status =>
          unfold readStatus
          dsimp only
          split <;> exact ⟨rfl, rfl, rfl⟩
        | command => exact ⟨rfl, rfl, rfl⟩
      · exact ⟨rfl, rfl, rfl⟩

/-- A write to the status endpoint is only counted. -/
theorem write_status (value : Bytes) (bulb : Bulb) :
    (bulb.write .status value).2 = bulb.countWrite := by
  unfold write
  split
  · rfl
  · split
    · rfl
    · split <;> rfl

/-- A bulb vouches for the answer to a pair request. -/
theorem answerPairRequest_vouches (credentials : Credentials) (random : SessionRandom)
    (bulb : Bulb) (connected : bulb.connected = true)
    (discerns : bulb.Discerns credentials random) :
    let answered := bulb.answerPairRequest (Frame.encodePairRequest credentials random)
    answered.Vouches credentials random (answered.pairResponse.getD []) := by
  unfold answerPairRequest
  rw [Frame.decodePairRequest_encode bulb.credentials credentials random]
  by_cases same : Frame.proof bulb.credentials random = Frame.proof credentials random
  · simp only [if_pos same]
    refine ⟨connected, fun device accepted => ?_⟩
    have own := (Frame.decodePairResponse_encode bulb.credentials _).symm.trans accepted
    rw [Except.ok.injEq, Frame.PairResponse.accepted.injEq] at own
    rw [own, Frame.deriveSessionKey_congr (discerns same.symm)]
  · simp only [if_neg same]
    refine ⟨connected, fun device accepted => ?_⟩
    simp [Frame.decodePairResponse, Frame.pairRejectedTag, Frame.pairAcceptedTag] at accepted

/-- A pair request that the bulb took is answered. -/
theorem write_request_vouches (credentials : Credentials) (random : SessionRandom) (bulb : Bulb)
    (discerns : bulb.Discerns credentials random) :
    let asked := bulb.write .pairing (Frame.encodePairRequest credentials random)
    asked.1 = some .written →
      asked.2.Vouches credentials random (asked.2.pairResponse.getD []) := by
  intro asked taken
  have written : asked = bulb.write .pairing (Frame.encodePairRequest credentials random) := rfl
  unfold write at written
  split at written
  · simp [written] at taken
  · split at written
    · simp [written] at taken
    · split at written
      · rename_i connected
        rw [written]
        have asks : (Frame.encodePairRequest credentials random).head? =
            some Frame.pairRequestTag := rfl
        simp only [writePairing, asks, if_true]
        exact answerPairRequest_vouches credentials random bulb.countWrite connected discerns
      · simp [written] at taken

/-- A bulb that vouched for the answer that waits vouches for the bytes that a read brings. -/
theorem read_vouches (credentials : Credentials) (random : SessionRandom) (bulb : Bulb)
    (honest : bulb.faults.pairResponse = none)
    (vouches : bulb.Vouches credentials random (bulb.pairResponse.getD [])) (bytes : Bytes) :
    let answered := bulb.read .pairing
    answered.1 = some (.delivered bytes) → answered.2.Vouches credentials random bytes := by
  intro answered brought
  have same : answered = bulb.read .pairing := rfl
  have unforced : bulb.countRead.faults.pairResponse = none := honest
  unfold read at same
  split at same
  · simp [same] at brought
  · split at same
    · simp [same] at brought
    · split at same
      · simp only [readPairing, unforced] at same
        rw [same] at brought
        have bytesAre : bulb.pairResponse.getD [] = bytes :=
          Report.delivered.inj (Option.some.inj brought)
        rw [same, ← bytesAre]
        exact ⟨vouches.connected, vouches.key⟩
      · simp [same] at brought

end Bulb

end MeshLight
