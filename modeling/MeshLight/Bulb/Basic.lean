import MeshLight.Frame.MeshUpdate
import MeshLight.Frame.Notification
import MeshLight.Frame.Pairing
import MeshLight.Random.Source
import MeshLight.Text.Lossy

/-!
# The simulated bulb

The light's side of the protocol. A bulb accepts a pair request made with its credentials and
derives the session key, applies command frames that pass their check, collects the three fields of
a mesh update in any order and adopts them together, and answers status reads with numbered
notifications. Whatever it answers to a pairing write waits until it is read.
-/

namespace MeshLight

/-- Ways in which a bulb misbehaves on purpose. Dropped writes and reads vanish without an answer,
those that fail do so with the given reason, and a given pair response is what reads of the pairing
endpoint bring. -/
structure Faults where
  dropWrites : Bool := false
  failWrites : Option String := none
  dropReads : Bool := false
  failReads : Option String := none
  pairResponse : Option Bytes := none
  rejectMeshUpdate : Bool := false
  deriving Repr, DecidableEq

/-- The fields of a mesh update that have arrived. -/
structure Stage where
  name : Option Cipher.Block := none
  password : Option Cipher.Block := none
  longTermKey : Option Cipher.Block := none
  deriving Repr, DecidableEq

/-- The stage after another field arrived. -/
def Stage.add (field : MeshField) (block : Cipher.Block) (stage : Stage) : Stage :=
  match field with
  | .name => { stage with name := some block }
  | .password => { stage with password := some block }
  | .longTermKey => { stage with longTermKey := some block }

/-- How often a bulb did what. Writes and reads are counted when they are received, dropped ones
included; a pairing is accepted when its proof was right. -/
structure Statistics where
  writes : Nat := 0
  reads : Nat := 0
  pairingsAccepted : Nat := 0
  pairingsRejected : Nat := 0
  commandsApplied : Nat := 0
  commandsRejected : Nat := 0
  disconnects : Nat := 0
  deriving Repr, DecidableEq

/-- What a bulb is built from; the seed is that of its randomness. -/
structure BulbSettings where
  address : Address
  credentials : Credentials
  meshId : UInt16 := 1
  seed : UInt64 := 0x5eed

/-- A light that speaks the protocol. It holds a key after an accepted pairing, and the answer to a
pair request or a mesh update until that is read; its sequence is the number of the latest
notification. -/
structure Bulb where
  address : Address
  credentials : Credentials
  connected : Bool := true
  key : Option SessionKey := none
  random : Random.Source
  pairResponse : Option Bytes := none
  stage : Stage := {}
  light : Light.Status
  sequence : Nat := 0
  statistics : Statistics := {}
  faults : Faults := {}

namespace Bulb

/-- A connected bulb without a session. -/
def ofSettings (settings : BulbSettings) : Bulb :=
  { address := settings.address
    credentials := settings.credentials
    random := .seeded settings.seed
    light := { meshId := settings.meshId, whiteBrightness := Light.whiteBrightnessLimit,
               colorBrightness := 100 } }

/-- The text in a field: the bytes before the first zero. -/
def fieldText (block : Cipher.Block) : String :=
  Lossy.text (block.toList.takeWhile (· ≠ 0))

/-- Answers a pair request and forgets what was staged. -/
def answerPairRequest (request : Bytes) (bulb : Bulb) : Bulb :=
  let cleared := { bulb with stage := {} }
  match Frame.decodePairRequest bulb.credentials request with
  | .ok controller =>
    let (bytes, random) := bulb.random.draw 8
    let device : SessionRandom := ⟨bytes⟩
    { cleared with
      random
      key := some (Frame.deriveSessionKey bulb.credentials controller device)
      pairResponse := some (Frame.encodePairResponse bulb.credentials device)
      statistics := { bulb.statistics with
        pairingsAccepted := bulb.statistics.pairingsAccepted + 1 } }
  | .error _ =>
    { cleared with
      key := none
      pairResponse := some [Frame.pairRejectedTag]
      statistics := { bulb.statistics with
        pairingsRejected := bulb.statistics.pairingsRejected + 1 } }

/-- Takes over a complete mesh update, unless that is refused or a text does not fit. -/
def adopt (name password : Cipher.Block) (bulb : Bulb) : Bulb :=
  if bulb.faults.rejectMeshUpdate then { bulb with pairResponse := some [Frame.pairRejectedTag] }
  else
    match Credentials.make (fieldText name) (fieldText password) with
    | .ok credentials => { bulb with credentials, pairResponse := some [Frame.meshAcceptedTag] }
    | .error _ => { bulb with pairResponse := some [Frame.pairRejectedTag] }

/-- Stages one field; the third of them completes the update and empties the stage. -/
def stageField (field : MeshField) (block : Cipher.Block) (bulb : Bulb) : Bulb :=
  let stage := bulb.stage.add field block
  match stage.name, stage.password, stage.longTermKey with
  | some name, some password, some _ => { bulb with stage := {} }.adopt name password
  | _, _, _ => { bulb with stage }

/-- Takes a write to the pairing endpoint. -/
def writePairing (value : Bytes) (bulb : Bulb) : Bulb :=
  if value.head? = some Frame.pairRequestTag then bulb.answerPairRequest value
  else
    match bulb.key with
    | none => { bulb with pairResponse := some [Frame.pairRejectedTag] }
    | some key =>
      match Frame.decodeMeshUpdate key value with
      | .ok (field, block) => bulb.stageField field block
      | .error _ => { bulb with pairResponse := some [Frame.pairRejectedTag] }

/-- Changes the output state as a command says. -/
def obey (command : Light.Command) (light : Light.Status) : Light.Status :=
  match command with
  | .power on => { light with on }
  | .whiteTemperature value => { light with whiteTemperature := value }
  | .whiteBrightness value => { light with whiteBrightness := min value Light.whiteBrightnessLimit }
  | .color red green blue => { light with red, green, blue }
  | .colorBrightness value => { light with colorBrightness := value }

/-- The command of a frame, if there is a session and the frame is in order. -/
def command? (value : Bytes) (bulb : Bulb) : Option Light.Command :=
  match bulb.key with
  | none => none
  | some key =>
    match Frame.decodeCommand key bulb.address value with
    | .ok frame => frame.light.toOption
    | .error _ => none

/-- Takes a write to the command endpoint. -/
def writeCommand (value : Bytes) (bulb : Bulb) : Bulb :=
  match bulb.command? value with
  | some command =>
    { bulb with
      light := obey command bulb.light
      statistics := { bulb.statistics with
        commandsApplied := bulb.statistics.commandsApplied + 1 } }
  | none =>
    { bulb with
      statistics := { bulb.statistics with
        commandsRejected := bulb.statistics.commandsRejected + 1 } }

/-- The three bytes of a notification number, low byte first. -/
def sequenceBytes (number : Nat) : Frame.Sequence :=
  Vector.ofFn fun index => UInt8.ofNat (number >>> (8 * index.val))

/-- Answers a read of the pairing endpoint. -/
def readPairing (bulb : Bulb) : Bytes × Bulb :=
  match bulb.faults.pairResponse with
  | some bytes => (bytes, bulb)
  | none => (bulb.pairResponse.getD [], { bulb with pairResponse := none })

/-- Answers a read of the status endpoint with the next notification, if there is a session. -/
def readStatus (bulb : Bulb) : Bytes × Bulb :=
  match bulb.key with
  | none => ([], bulb)
  | some key =>
    let sequence := (bulb.sequence + 1) % 0x1000000
    let notification :=
      Frame.encodeNotification key bulb.address (sequenceBytes sequence) bulb.light.meshId
        bulb.light.encode
    (notification.toOption.getD [], { bulb with sequence })

end Bulb

end MeshLight
