import MeshLight.Proofs.Bulb.Session
import MeshLight.Proofs.Frame.Command
import MeshLight.Proofs.Frame.Notification

/-!
# A bulb in calm

A bulb whose link is up and that has no faults takes every write and answers every read. To a
request made with its secret, to a command under its key and to a read of its status it does what it
is meant to do.
-/

namespace MeshLight.Bulb

open Link (Characteristic Report)

/-- The link is up and there are no faults. -/
structure Calm (bulb : Bulb) : Prop where
  connected : bulb.connected = true
  faults : bulb.faults = {}

/-- The bulb behind a write that it takes. -/
def taking (characteristic : Characteristic) (value : Bytes) (bulb : Bulb) : Bulb :=
  match characteristic with
  | .pairing => bulb.countWrite.writePairing value
  | .status => bulb.countWrite
  | .command => bulb.countWrite.writeCommand value

/-- The bytes that a read brings and the bulb behind it. -/
def answering (characteristic : Characteristic) (bulb : Bulb) : Bytes × Bulb :=
  match characteristic with
  | .pairing => bulb.countRead.readPairing
  | .status => bulb.countRead.readStatus
  | .command => ([], bulb.countRead)

/-- The bulb behind a read of its pairing endpoint. -/
def answered (bulb : Bulb) : Bulb :=
  { bulb.countRead with pairResponse := none }

section Calm

variable {bulb : Bulb} (calm : bulb.Calm)

include calm

/-- In calm every write is taken. -/
theorem Calm.write_eq (characteristic : Characteristic) (value : Bytes) :
    bulb.write characteristic value = (some .written, bulb.taking characteristic value) := by
  cases characteristic <;> simp [Bulb.write, calm.connected, calm.faults, taking]

/-- In calm every read is answered. -/
theorem Calm.read_eq (characteristic : Characteristic) :
    bulb.read characteristic =
      (some (.delivered (bulb.answering characteristic).1), (bulb.answering characteristic).2) := by
  cases characteristic <;> simp [Bulb.read, calm.connected, calm.faults, answering]

/-- A write leaves a bulb in calm. -/
theorem Calm.taking (characteristic : Characteristic) (value : Bytes) :
    (bulb.taking characteristic value).Calm := by
  cases characteristic with
  | pairing =>
    obtain ⟨connected, faults, -⟩ := bulb.countWrite.writePairing_frame value
    exact ⟨connected.trans calm.connected, faults.trans calm.faults⟩
  | status => exact ⟨calm.connected, calm.faults⟩
  | command =>
    unfold Bulb.taking writeCommand
    dsimp only
    split <;> exact ⟨calm.connected, calm.faults⟩

/-- So does a read of its pairing endpoint. -/
theorem Calm.answered : bulb.answered.Calm :=
  ⟨calm.connected, calm.faults⟩

/-- The answer that waits is what a read of the pairing endpoint brings. -/
theorem Calm.answering_pairing :
    bulb.answering .pairing = (bulb.pairResponse.getD [], bulb.answered) := by
  have unforced : bulb.countRead.faults.pairResponse = none := by
    simp [countRead, calm.faults]
  simp only [answering, readPairing, unforced]
  rfl

end Calm

/-- The bulb behind a pair request that it accepted: it holds a key, its answer waits, and nothing
is staged any more. -/
def accepting (random : SessionRandom) (bulb : Bulb) : Bulb :=
  { bulb with
    random := (bulb.random.draw 8).2
    key := some (Frame.deriveSessionKey bulb.credentials random ⟨(bulb.random.draw 8).1⟩)
    pairResponse := some (Frame.encodePairResponse bulb.credentials ⟨(bulb.random.draw 8).1⟩)
    stage := {}
    statistics := { bulb.statistics with
      pairingsAccepted := bulb.statistics.pairingsAccepted + 1 } }

/-- A request that decodes under the credentials of the bulb is accepted. -/
theorem writePairing_accepted {request : Bytes} {random : SessionRandom} {bulb : Bulb}
    (decoded : Frame.decodePairRequest bulb.credentials request = .ok random) :
    bulb.writePairing request = bulb.accepting random := by
  have asks : request.head? = some Frame.pairRequestTag := by
    have beginning := congrArg List.head? (Frame.decodePairRequest_ok_iff.mp decoded).2
    simpa [Frame.encodePairRequest, List.head?_take] using beginning
  simp only [writePairing, asks, if_true, answerPairRequest, decoded]
  rfl

/-- So is a request with the proof that the bulb expects. -/
theorem writePairing_request (credentials : Credentials) (random : SessionRandom) (bulb : Bulb)
    (same : Frame.proof bulb.credentials random = Frame.proof credentials random) :
    bulb.writePairing (Frame.encodePairRequest credentials random) = bulb.accepting random := by
  apply writePairing_accepted
  rw [Frame.decodePairRequest_encode, if_pos same]

/-- A request with another proof is refused. -/
theorem writePairing_refused (credentials : Credentials) (random : SessionRandom) (bulb : Bulb)
    (different : Frame.proof bulb.credentials random ≠ Frame.proof credentials random) :
    (bulb.writePairing (Frame.encodePairRequest credentials random)).pairResponse =
      some [Frame.pairRejectedTag] := by
  have asks : (Frame.encodePairRequest credentials random).head? =
      some Frame.pairRequestTag := rfl
  simp only [writePairing, asks, if_true, answerPairRequest,
    Frame.decodePairRequest_encode, if_neg different]

/-- A command under the key of the bulb is obeyed. -/
theorem writeCommand_encoded {key : SessionKey} {sequence : Frame.Sequence} {destination : UInt16}
    {command : Light.Command} {frame : Bytes} {bulb : Bulb} (held : bulb.key = some key)
    (encoded :
      Frame.encodeLightCommand key bulb.address sequence destination command = .ok frame) :
    bulb.writeCommand frame =
      { bulb with
        light := obey command bulb.light
        statistics := { bulb.statistics with
          commandsApplied := bulb.statistics.commandsApplied + 1 } } := by
  obtain ⟨other, content, same, decoded, -, -, light⟩ :=
    Frame.decodeCommand_encodeLightCommand key bulb.address sequence destination command
  have frameIs : other = frame := Except.ok.inj (same.symm.trans encoded)
  rw [frameIs] at decoded
  have understood : bulb.command? frame = some command := by
    simp [command?, held, decoded, light, Except.toOption]
  simp only [writeCommand, understood]

/-- The number of three bytes, low byte first. -/
def numberOf (sequence : Frame.Sequence) : Nat :=
  sequence[0].toNat + 256 * sequence[1].toNat + 65536 * sequence[2].toNat

/-- A number is read back from its bytes, modulo what three bytes can hold. -/
theorem numberOf_sequenceBytes (number : Nat) :
    numberOf (sequenceBytes number) = number % 0x1000000 := by
  simp only [numberOf, sequenceBytes, Vector.getElem_ofFn, UInt8.toNat_ofNat',
    Nat.shiftRight_eq_div_pow]
  omega

/-- A read of the status brings the next notification, and it says how the light is. -/
theorem readStatus_keyed {key : SessionKey} {bulb : Bulb} (held : bulb.key = some key) :
    ∃ frame, bulb.readStatus = (frame, { bulb with sequence := (bulb.sequence + 1) % 0x1000000 }) ∧
      Frame.decodeNotification key bulb.address frame =
        .ok { sequence := sequenceBytes ((bulb.sequence + 1) % 0x1000000)
              source := bulb.light.meshId
              payload := bulb.light.encode } := by
  have encoded := Frame.encodeNotification_ok key bulb.address
    (sequenceBytes ((bulb.sequence + 1) % 0x1000000)) bulb.light.meshId bulb.light.encode_fits
  refine ⟨_, ?_, Frame.decodeNotification_ok_iff.mpr rfl⟩
  simp only [readStatus, held]
  exact congrArg (fun sent => (sent.toOption.getD [], _)) encoded

end MeshLight.Bulb
