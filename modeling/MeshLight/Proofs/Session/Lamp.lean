import Mathlib.Data.List.Induction
import MeshLight.Proofs.Session.Calm
import MeshLight.Proofs.Session.Conversation

/-!
# A light behind the whole stack is a lamp

A lamp is a light with three counts: it obeys commands and numbers its reports. Towards a bulb in
calm every operation but a move does to the light what it does to a lamp, and a status says what the
lamp shows. The two sides hold the same key all the while.
-/

namespace MeshLight

/-- What a bulb comes to for somebody who commands it and asks for its status: its output state, the
number of its latest report, and how many commands it applied and ignored. -/
structure Lamp where
  light : Light.Status
  sequence : Nat
  applied : Nat
  rejected : Nat

namespace Bulb

/-- The lamp that a bulb is. -/
def lamp (bulb : Bulb) : Lamp :=
  { light := bulb.light, sequence := bulb.sequence
    applied := bulb.statistics.commandsApplied, rejected := bulb.statistics.commandsRejected }

/-- A new bulb, whatever its randomness. -/
def new (settings : BulbSettings) (random : Random.Source) : Bulb :=
  { ofSettings settings with random }

/-- The bulb behind a complete pairing. -/
def paired (random : SessionRandom) (bulb : Bulb) : Bulb :=
  (bulb.countWrite.accepting random).countWrite.answered

end Bulb

namespace Lamp

open Session (Request Result)

/-- What a request does to a lamp. -/
def serve (request : Request) (lamp : Lamp) : Lamp :=
  match request with
  | .light command =>
    { lamp with light := Bulb.obey command lamp.light, applied := lamp.applied + 1 }
  | .status => { lamp with sequence := (lamp.sequence + 1) % 0x1000000 }
  | _ => lamp

/-- What requests do to a lamp, first one first. -/
def after (requests : List (UInt16 × Request)) (lamp : Lamp) : Lamp :=
  requests.foldl (fun current entry => current.serve entry.2) lamp

/-- The last request comes last. -/
theorem after_concat (requests : List (UInt16 × Request)) (entry : UInt16 × Request)
    (lamp : Lamp) : lamp.after (requests ++ [entry]) = (lamp.after requests).serve entry.2 := by
  simp only [after, List.foldl_append, List.foldl_cons, List.foldl_nil]

/-- The commands among requests. -/
def commands (requests : List (UInt16 × Request)) : List Light.Command :=
  requests.filterMap fun entry =>
    match entry.2 with
    | .light command => some command
    | _ => none

/-- How many requests ask for the status. -/
def statusReads (requests : List (UInt16 × Request)) : Nat :=
  requests.countP fun entry => entry.2 = .status

/-- The output state after commands, first one first. -/
def shown (commands : List Light.Command) (light : Light.Status) : Light.Status :=
  commands.foldl (fun current command => Bulb.obey command current) light

/-- No command changes the mesh id. -/
@[simp] theorem shown_meshId (commands : List Light.Command) (light : Light.Status) :
    (shown commands light).meshId = light.meshId := by
  induction commands generalizing light with
  | nil => rfl
  | cons command later inductionHypothesis =>
    refine (inductionHypothesis (Bulb.obey command light)).trans ?_
    cases command <;> rfl

/-- Requests leave the commands among them and count the rest. -/
theorem after_eq (requests : List (UInt16 × Request)) (lamp : Lamp) :
    (lamp.after requests).light = shown (commands requests) lamp.light ∧
      (lamp.after requests).sequence % 0x1000000 =
        (lamp.sequence + statusReads requests) % 0x1000000 ∧
      (lamp.after requests).applied = lamp.applied + (commands requests).length ∧
      (lamp.after requests).rejected = lamp.rejected := by
  induction requests generalizing lamp with
  | nil => exact ⟨rfl, rfl, rfl, rfl⟩
  | cons entry later inductionHypothesis =>
    obtain ⟨light, sequence, applied, rejected⟩ := inductionHypothesis (lamp.serve entry.2)
    obtain ⟨meshId, request⟩ := entry
    refine ⟨light.trans ?_, sequence.trans ?_, applied.trans ?_, rejected.trans ?_⟩
    · cases request <;> rfl
    · cases request with
      | status =>
        simp [serve, statusReads]
        omega
      | _ => simp [serve, statusReads]
    · cases request with
      | light command =>
        simp [serve, commands]
        omega
      | _ => simp [serve, commands]
    · cases request <;> rfl

/-- A notification that tells what a lamp shows, under the next number. It comes from the light. -/
structure Reports (lamp : Lamp) (notification : Frame.Notification) : Prop where
  source : notification.source = lamp.light.meshId
  sequence : notification.sequence = Bulb.sequenceBytes ((lamp.sequence + 1) % 0x1000000)
  payload : Light.Status.decode notification.payload = .ok lamp.light

/-- Whether a result is what a lamp answers to a request. -/
def Answers (lamp : Lamp) (request : Request) (result : Result) : Prop :=
  match request with
  | .status => ∃ notification, result = .ok (.notification notification) ∧
      lamp.Reports notification
  | _ => result = .ok .done

/-- Every answer of a lamp is a success. -/
theorem Answers.isOk {lamp : Lamp} {request : Request} {result : Result}
    (answers : lamp.Answers request result) : result.isOk = true := by
  cases request with
  | status =>
    obtain ⟨notification, rfl, -⟩ := answers
    rfl
  | _ => exact (congrArg Except.isOk answers).trans rfl

end Lamp

namespace Session

/-- Whether a request leaves the light in its mesh. -/
def Request.stays : Request → Bool
  | .migrate .. => false
  | _ => true

/-- The controller and the bulb in calm that is its light hold the same key, and the next pairing
will succeed too: both sides have the same secret, and nothing of a move is staged. -/
structure Paired (controller : Controller) (world : World Bulb) : Prop extends Calm world where
  address : controller.address = world.transport.address
  secret : world.transport.credentials.secret = controller.credentials.secret
  key : ∃ key, world.tracker.key = some key ∧ world.transport.key = some key
  stage : world.transport.stage = {}

/-- A step in calm leaves calm behind. -/
theorem Calm.rested {world : World Bulb} (calm : Calm world) (bulb : Bulb) (still : bulb.Calm) :
    Calm (Step.rested bulb world) :=
  ⟨by rw [Step.rested_cancelled, calm.running], still⟩

namespace Paired

variable {controller : Controller} {world later : World Bulb}

/-- Reports alone change nothing. -/
theorem reported (paired : Paired controller world) (tracker : later.tracker = world.tracker)
    (transport : later.transport = world.transport) : Paired controller later := by
  obtain ⟨⟨running, bulb⟩, address, secret, key, stage⟩ := paired
  rw [← tracker] at running key
  rw [← transport] at bulb address secret key stage
  exact ⟨⟨running, bulb⟩, address, secret, key, stage⟩

/-- Neither does a controller that only drew from its randomness. -/
theorem drawn (paired : Paired controller world) {other : Controller}
    (address : other.address = controller.address)
    (credentials : other.credentials = controller.credentials) : Paired other world where
  toCalm := paired.toCalm
  address := address.trans paired.address
  secret := paired.secret.trans (congrArg Credentials.secret credentials).symm
  key := paired.key
  stage := paired.stage

/-- A step in calm that leaves alone what the bulb has for the session. -/
theorem rested (paired : Paired controller world) (bulb : Bulb) (still : bulb.Calm)
    (address : bulb.address = world.transport.address)
    (credentials : bulb.credentials = world.transport.credentials)
    (key : bulb.key = world.transport.key) (stage : bulb.stage = world.transport.stage) :
    Paired controller (Step.rested bulb world) where
  toCalm := paired.toCalm.rested bulb still
  address := paired.address.trans address.symm
  secret := (congrArg Credentials.secret credentials).trans paired.secret
  key := by
    obtain ⟨held, here, there⟩ := paired.key
    exact ⟨held, (Step.rested_key bulb world).trans here, key.trans there⟩
  stage := stage.trans paired.stage

end Paired

namespace Controller

variable (controller : Controller) (world : World Bulb)

/-! ## Pairing -/

/-- In calm the conversation of a pairing gives what the answer of the bulb says. -/
theorem finish_calm_handshake (random : SessionRandom) (calm : Calm world) :
    let asked := world.transport.taking .pairing
      (Frame.encodePairRequest controller.credentials random)
    ∃ later, (controller.handshake random).run.finish Bulb.transport world =
        (controller.responseKey random (asked.pairResponse.getD []), later) ∧
      later.tracker.epoch = world.tracker.epoch ∧ Calm later ∧
      later.transport = asked.countWrite.answered := by
  intro asked
  have askedCalm : Calm (Step.rested asked world) := calm.rested asked (calm.bulb.taking _ _)
  have echoing : asked.countWrite.Calm := askedCalm.bulb.taking .status Frame.statusEcho
  have echoedCalm : Calm (Step.rested asked.countWrite (Step.rested asked world)) :=
    askedCalm.rested asked.countWrite echoing
  have request := Step.finish_calm_write calm controller.bound "pair request" .pairing
    (Frame.encodePairRequest controller.credentials random)
  have echo : (Step.write controller.bound "status echo" .status Frame.statusEcho).run.finish
      Bulb.transport (Step.rested asked world) =
        (.ok (), Step.rested asked.countWrite (Step.rested asked world)) :=
    Step.finish_calm_write askedCalm _ _ _ _
  have response := Step.finish_calm_read echoedCalm controller.bound "pair response" .pairing
  rw [echoedCalm.bulb.answering_pairing] at response
  refine ⟨Step.rested asked.countWrite.answered
    (Step.rested asked.countWrite (Step.rested asked world)), ?_, ?_, ?_, rfl⟩
  · have request : (Step.write controller.bound "pair request" .pairing
        (Frame.encodePairRequest controller.credentials random)).run.finish Bulb.transport world =
          (.ok (), Step.rested asked world) := request
    have understood : (Step.read controller.bound "pair response" .pairing).run.finish
        Bulb.transport (Step.rested asked.countWrite (Step.rested asked world)) =
          (.ok (asked.pairResponse.getD []), Step.rested asked.countWrite.answered
            (Step.rested asked.countWrite (Step.rested asked world))) := response
    rw [finish_handshake_response]
    simp only [converse, write, read, Procedure.finish_attempt, request, echo, understood]
  · simp only [Step.rested_epoch]
  · exact echoedCalm.rested _ echoing.answered

/-- In calm a pairing with the proof that the bulb expects succeeds. -/
theorem finish_calm_accepted (calm : Calm world)
    (same : Frame.proof world.transport.credentials controller.drawRandom.1 =
      Frame.proof controller.credentials controller.drawRandom.1) :
    ∃ later, controller.pair.finish Bulb.transport world =
        ((.ok (), controller.drawRandom.2), later) ∧
      Calm later ∧ later.transport = world.transport.paired controller.drawRandom.1 ∧
      later.tracker.key = some (Frame.deriveSessionKey controller.credentials
        controller.drawRandom.1 ⟨(world.transport.random.draw 8).1⟩) := by
  have begunCalm : Calm (pairingBegun world) := ⟨calm.running, calm.bulb⟩
  obtain ⟨answered, spoken, epoch, still, bulb⟩ :=
    finish_calm_handshake controller.drawRandom.2 (pairingBegun world) controller.drawRandom.1
      begunCalm
  let device : SessionRandom := ⟨(world.transport.random.draw 8).1⟩
  let key := Frame.deriveSessionKey controller.credentials controller.drawRandom.1 device
  have accepted : (pairingBegun world).transport.taking .pairing
      (Frame.encodePairRequest controller.drawRandom.2.credentials controller.drawRandom.1) =
        world.transport.countWrite.accepting controller.drawRandom.1 :=
    Bulb.writePairing_request controller.credentials _ world.transport.countWrite same
  have keyed : controller.drawRandom.2.responseKey controller.drawRandom.1
      (Frame.encodePairResponse world.transport.credentials device) = .ok key := by
    rw [responseKey, Frame.decodePairResponse_encode]
    rfl
  rw [accepted] at spoken bulb
  have conversed := spoken.trans (congrArg (·, answered) keyed)
  let installed := answered.withTracker { answered.tracker with key := some key }
  refine ⟨(installed.count .pairingEstablished).emit (.pairingFinished .established), ?_,
    ⟨still.running, still.bulb⟩, bulb, rfl⟩
  have unmoved : answered.tracker.epoch = world.tracker.epoch := epoch
  rw [finish_pair, Procedure.finish_attempt, conversed]
  simp only [finish_install, if_neg (Bool.eq_false_iff.mp still.running), if_pos unmoved]
  rfl

/-- In calm a pairing of two sides with one secret succeeds, and both hold the same key. -/
theorem finish_calm_shared (calm : Calm world)
    (secret : world.transport.credentials.secret = controller.credentials.secret) :
    ∃ later key, controller.pair.finish Bulb.transport world =
        ((.ok (), controller.drawRandom.2), later) ∧
      Calm later ∧ later.transport = world.transport.paired controller.drawRandom.1 ∧
      later.tracker.key = some key ∧ later.transport.key = some key := by
  obtain ⟨later, finished, still, bulb, key⟩ :=
    finish_calm_accepted controller world calm (Frame.proof_congr secret _)
  refine ⟨later, _, finished, still, bulb, key, ?_⟩
  exact (congrArg Bulb.key bulb).trans (congrArg some (Frame.deriveSessionKey_congr secret _ _))

/-- They stay paired if the bulb is the light of the controller. -/
theorem finish_calm_pair (calm : Calm world)
    (address : controller.address = world.transport.address)
    (secret : world.transport.credentials.secret = controller.credentials.secret) :
    ∃ later, controller.pair.finish Bulb.transport world =
        ((.ok (), controller.drawRandom.2), later) ∧
      Paired controller.drawRandom.2 later ∧
      later.transport = world.transport.paired controller.drawRandom.1 := by
  obtain ⟨later, key, finished, still, bulb, held, heldThere⟩ :=
    finish_calm_shared controller world calm secret
  refine ⟨later, finished, ⟨still, ?_, ?_, ⟨key, held, heldThere⟩, congrArg Bulb.stage bulb⟩, bulb⟩
  · exact address.trans (congrArg Bulb.address bulb).symm
  · exact (congrArg (fun bulb => bulb.credentials.secret) bulb).trans secret

/-- In calm a bulb that expects another proof refuses a pairing. -/
theorem finish_calm_refused (calm : Calm world)
    (different : Frame.proof world.transport.credentials controller.drawRandom.1 ≠
      Frame.proof controller.credentials controller.drawRandom.1) :
    (controller.pair.finish Bulb.transport world).1 =
      (.error (.authentication controller.address), controller.drawRandom.2) := by
  have begunCalm : Calm (pairingBegun world) := ⟨calm.running, calm.bulb⟩
  obtain ⟨answered, spoken, -⟩ :=
    finish_calm_handshake controller.drawRandom.2 (pairingBegun world) controller.drawRandom.1
      begunCalm
  have refused : ((pairingBegun world).transport.taking .pairing (Frame.encodePairRequest
      controller.drawRandom.2.credentials controller.drawRandom.1)).pairResponse =
        some [Frame.pairRejectedTag] :=
    Bulb.writePairing_refused controller.credentials _ world.transport.countWrite different
  rw [refused] at spoken
  have conversed := spoken.trans (congrArg (·, answered)
    (controller.drawRandom.2.responseKey_rejected controller.drawRandom.1 rfl))
  rw [finish_pair, Procedure.finish_attempt, conversed]
  rfl

/-! ## Commands and statuses -/

variable {controller world}

/-- In calm a command is obeyed. -/
theorem finish_calm_send (paired : Paired controller world) (meshId : UInt16)
    (command : Light.Command) :
    ∃ later, (controller.send meshId command).finish Bulb.transport world =
        ((.ok (), controller.drawSequence.2), later) ∧
      Paired controller.drawSequence.2 later ∧
      later.transport.lamp = world.transport.lamp.serve (.light command) := by
  obtain ⟨key, held, heldThere⟩ := paired.key
  obtain ⟨frame, _, encoded, -⟩ := Frame.decodeCommand_encodeLightCommand key
    world.transport.address controller.drawSequence.1 meshId command
  let obedient : Bulb :=
    { world.transport.countWrite with
      light := Bulb.obey command world.transport.light
      statistics := { world.transport.countWrite.statistics with
        commandsApplied := world.transport.statistics.commandsApplied + 1 } }
  have obeyed : world.transport.taking .command frame = obedient := by
    have keyed : world.transport.countWrite.key = some key := heldThere
    exact Bulb.writeCommand_encoded keyed encoded
  have wrote := Step.finish_calm_write paired.toCalm controller.bound "command" .command frame
  have required := finish_requireKey controller Bulb.transport world
  have enciphered : Frame.encodeLightCommand key controller.drawSequence.2.address
      controller.drawSequence.1 meshId command = .ok frame := by
    rw [← encoded, ← paired.address]
    rfl
  rw [obeyed] at wrote
  rw [held] at required
  have delivered : (controller.deliver meshId command).finish Bulb.transport world =
      ((.ok (), controller.drawSequence.2), Step.rested obedient world) := by
    simp only [deliver, Procedure.finish_bind, required, Option.elim, enciphered, write]
    exact congrArg (fun ended => ((ended.1, controller.drawSequence.2), ended.2)) wrote
  have still : Paired controller.drawSequence.2 (Step.rested obedient world) :=
    (paired.rested obedient ⟨paired.bulb.1, paired.bulb.2⟩ rfl rfl rfl rfl).drawn rfl rfl
  refine ⟨((Step.rested obedient world).count (.commandSent command.opcode)).emit
    (.commandSent command.opcode), ?_, still.reported rfl rfl, rfl⟩
  simp only [send, Procedure.finish_bind, delivered, Procedure.finish_count,
    Procedure.finish_emit, Procedure.finish_pure]

/-- In calm a status is reported. -/
theorem finish_calm_readStatus (paired : Paired controller world) :
    ∃ notification later, controller.readStatus.finish Bulb.transport world =
        (.ok notification, later) ∧
      Paired controller later ∧
      later.transport.lamp = world.transport.lamp.serve .status ∧
      world.transport.lamp.Reports notification := by
  obtain ⟨key, held, heldThere⟩ := paired.key
  have keyed : world.transport.countRead.key = some key := heldThere
  obtain ⟨frame, brought, decoded⟩ := Bulb.readStatus_keyed keyed
  generalize notified : Frame.Notification.mk _ _ _ = notification at decoded
  let numbered : Bulb :=
    { world.transport.countRead with sequence := (world.transport.sequence + 1) % 0x1000000 }
  have answered : world.transport.answering .status = (frame, numbered) := brought
  have read := Step.finish_calm_read paired.toCalm controller.bound "status" .status
  have required := finish_requireKey controller Bulb.transport world
  have uncovered : Frame.decodeNotification key controller.address frame = .ok notification := by
    rw [paired.address]
    exact decoded
  rw [answered] at read
  rw [held] at required
  have fetched : controller.fetchStatus.run.finish Bulb.transport world =
      (.ok notification, Step.rested numbered world) := by
    simp only [fetchStatus, Procedure.finish_attempt, required, Option.elim, Controller.read, read,
      uncovered]
    rfl
  have still : Paired controller (Step.rested numbered world) :=
    paired.rested numbered ⟨paired.bulb.1, paired.bulb.2⟩ rfl rfl rfl rfl
  refine ⟨notification, ((Step.rested numbered world).count .statusRead).emit
    (.statusReceived notification.source notification.payload), ?_, still.reported rfl rfl, rfl,
    ?_⟩
  · simp only [readStatus, Procedure.finish_bind, fetched, Procedure.finish_count,
      Procedure.finish_emit, Procedure.finish_pure]
  · subst notified
    have payload := Light.Status.decode_encode world.transport.light []
    rw [List.append_nil] at payload
    exact ⟨rfl, rfl, payload⟩

/-! ## All of them -/

/-- Every operation but a move does to the light what it does to a lamp, and answers like one. -/
theorem perform_serves (paired : Paired controller world) (meshId : UInt16) {request : Request}
    (stays : request.stays = true) :
    let performed := (controller.perform meshId request).finish Bulb.transport world
    Paired performed.1.2 performed.2 ∧
      performed.2.transport.lamp = world.transport.lamp.serve request ∧
      world.transport.lamp.Answers request performed.1.1 := by
  cases request with
  | pair =>
    obtain ⟨later, finished, still, bulb⟩ :=
      finish_calm_pair controller world paired.toCalm paired.address paired.secret
    simp only [perform, Procedure.finish_bind, Procedure.finish_pure, finished]
    exact ⟨still, by rw [bulb]; rfl, rfl⟩
  | light command =>
    obtain ⟨later, finished, still, lamp⟩ := finish_calm_send paired meshId command
    simp only [perform, Procedure.finish_bind, Procedure.finish_pure, finished]
    exact ⟨still, lamp, rfl⟩
  | status =>
    obtain ⟨notification, later, finished, still, lamp, reports⟩ := finish_calm_readStatus paired
    simp only [perform, Procedure.finish_bind, Procedure.finish_pure, finished]
    exact ⟨still, lamp, notification, rfl, reports⟩
  | migrate target longTermKey => cases stays

end Controller

/-! ## Runs -/

namespace Conversation

/-- A conversation goes on with operations alone. -/
def goOn (requests : List (UInt16 × Request)) (conversation : Conversation Bulb) :
    Conversation Bulb :=
  conversation.run Bulb.transport (fun incident : Empty => incident.elim)
    (requests.map fun entry => .operation entry.1 entry.2)

/-- The last operation comes last. -/
theorem goOn_concat (requests : List (UInt16 × Request)) (entry : UInt16 × Request)
    (conversation : Conversation Bulb) :
    conversation.goOn (requests ++ [entry]) = (conversation.goOn requests).goOn [entry] := by
  simp only [goOn, run, List.map_append, List.foldl_append]

/-- A single operation. -/
theorem goOn_singleton (entry : UInt16 × Request) (conversation : Conversation Bulb) :
    conversation.goOn [entry] =
      let performed := (conversation.controller.perform entry.1 entry.2).finish Bulb.transport
        conversation.world
      { controller := performed.1.2, world := performed.2,
        results := conversation.results ++ [performed.1.1] } := rfl

/-- What operations without a move come to: the two sides stay paired, the bulb is the lamp that the
requests make of it, and each further result is what the lamp answers at that point. There is one
result for each request. -/
structure Serves (requests : List (UInt16 × Request)) (start reached : Conversation Bulb)
    (given : List Result) : Prop where
  paired : Paired reached.controller reached.world
  lamp : reached.world.transport.lamp = start.world.transport.lamp.after requests
  results : reached.results = start.results ++ given
  length : given.length = requests.length
  answers : ∀ number entry result, requests[number]? = some entry → given[number]? = some result →
    (start.world.transport.lamp.after (requests.take number)).Answers entry.2 result

/-- The induction is on the requests from the last one on, so that what came before a request is a
conversation of its own. -/
theorem goOn_serves {conversation : Conversation Bulb}
    (paired : Paired conversation.controller conversation.world)
    (requests : List (UInt16 × Request)) (staying : ∀ entry ∈ requests, entry.2.stays = true) :
    ∃ given, Serves requests conversation (conversation.goOn requests) given := by
  induction requests using List.reverseRecOn with
  | nil =>
    exact ⟨[], paired, rfl, (List.append_nil _).symm, rfl, fun _ _ _ asked => nomatch asked⟩
  | append_singleton earlier entry inductionHypothesis =>
    obtain ⟨given, before⟩ := inductionHypothesis fun other among =>
      staying other (List.mem_append_left _ among)
    obtain ⟨still, lamp, answered⟩ :=
      Controller.perform_serves before.paired entry.1 (staying entry (by simp))
    rw [goOn_concat, goOn_singleton]
    generalize conversation.goOn earlier = middle at *
    generalize (middle.controller.perform entry.1 entry.2).finish Bulb.transport
      middle.world = performed at *
    refine ⟨given ++ [performed.1.1], still, ?_, ?_, ?_, fun number other result asked found => ?_⟩
    · rw [Lamp.after_concat, ← before.lamp]
      exact lamp
    · exact (congrArg (· ++ [performed.1.1]) before.results).trans (List.append_assoc _ _ _)
    · rw [List.length_append, List.length_append, before.length]
      rfl
    · by_cases now : number < earlier.length
      · rw [List.getElem?_append_left now] at asked
        rw [List.getElem?_append_left (before.length ▸ now)] at found
        rw [List.take_append_of_le_length (Nat.le_of_lt now)]
        exact before.answers number other result asked found
      · have place : number = earlier.length := by
          have inside := (List.getElem?_eq_some_iff.mp asked).1
          simp only [List.length_append, List.length_singleton] at inside
          omega
        rw [place, List.getElem?_concat_length, Option.some.injEq] at asked
        rw [place, ← before.length, List.getElem?_concat_length, Option.some.injEq] at found
        rw [place, List.take_left, ← before.lamp, ← asked, ← found]
        exact answered

/-- A pairing in calm comes first. -/
theorem goOn_pair (conversation : Conversation Bulb) (calm : Calm conversation.world)
    (address : conversation.controller.address = conversation.world.transport.address)
    (secret : conversation.world.transport.credentials.secret =
      conversation.controller.credentials.secret)
    (meshId : UInt16) (requests : List (UInt16 × Request)) :
    ∃ paired : Conversation Bulb,
      conversation.goOn ((meshId, .pair) :: requests) = paired.goOn requests ∧
        paired.controller = conversation.controller.drawRandom.2 ∧
        Paired paired.controller paired.world ∧
        paired.world.transport.lamp = conversation.world.transport.lamp ∧
        paired.results = conversation.results ++ [.ok .done] := by
  obtain ⟨later, finished, paired, bulb⟩ :=
    conversation.controller.finish_calm_pair conversation.world calm address secret
  refine ⟨conversation.goOn [(meshId, .pair)], rfl, ?_⟩
  have performed : (conversation.controller.perform meshId .pair).finish Bulb.transport
      conversation.world = ((.ok .done, conversation.controller.drawRandom.2), later) := by
    simp only [Controller.perform, Procedure.finish_bind, Procedure.finish_pure, finished]
    rfl
  rw [goOn_singleton, performed]
  exact ⟨rfl, paired, by rw [bulb]; rfl, rfl⟩

end Conversation

/-- A light behind the whole stack is a lamp. After a pairing with a new bulb in calm every
operation without a move succeeds; the light is what the commands make of it, each of which is
applied, and each status that is read comes from the bulb, has its own number and says how the light
is at that point. This holds of requests of any length, so it holds after each of them. -/
theorem bulb_is_lamp (controller : Controller) (settings : BulbSettings) (random : Random.Source)
    (requests : List (UInt16 × Request)) (address : controller.address = settings.address)
    (credentials : controller.credentials = settings.credentials)
    (staying : ∀ entry ∈ requests, entry.2.stays = true) :
    let bulb := Bulb.new settings random
    let reached := (Conversation.start controller bulb).goOn ((0, .pair) :: requests)
    let light (requests : List (UInt16 × Request)) := Lamp.shown (Lamp.commands requests) bulb.light
    reached.results.length = requests.length + 1 ∧
      (∀ result ∈ reached.results, result.isOk = true) ∧
      reached.world.transport.light = light requests ∧
      reached.world.transport.statistics.commandsApplied = (Lamp.commands requests).length ∧
      reached.world.transport.statistics.commandsRejected = 0 ∧
      ∀ number meshId, requests[number]? = some (meshId, .status) →
        ∃ notification, reached.results[number + 1]? = some (.ok (.notification notification)) ∧
          notification.source = settings.meshId ∧
          Bulb.numberOf notification.sequence =
            Lamp.statusReads (requests.take (number + 1)) % 0x1000000 ∧
          Light.Status.decode notification.payload = .ok (light (requests.take number)) := by
  intro bulb reached light
  obtain ⟨paired, opened, -, secured, began, results⟩ :=
    Conversation.goOn_pair (Conversation.start controller bulb) ⟨rfl, ⟨rfl, rfl⟩⟩ address
      (congrArg Credentials.secret credentials).symm 0 requests
  obtain ⟨given, -, lamp, grown, length, answers⟩ :=
    Conversation.goOn_serves secured requests staying
  have reachedIs : reached = paired.goOn requests := opened
  have all : reached.results = .ok .done :: given := by
    rw [reachedIs, grown, results]
    rfl
  have lampIs : reached.world.transport.lamp = bulb.lamp.after requests := by
    rw [reachedIs, lamp, began]
    rfl
  have fitting (number : Nat) (entry : UInt16 × Request) (result : Result)
      (asked : requests[number]? = some entry) (found : given[number]? = some result) :
      (bulb.lamp.after (requests.take number)).Answers entry.2 result := by
    have answer := answers number entry result asked found
    rwa [began] at answer
  obtain ⟨lit, -, applied, rejected⟩ := Lamp.after_eq requests bulb.lamp
  refine ⟨by rw [all, List.length_cons, length], fun result among => ?_, ?_, ?_, ?_, ?_⟩
  · rw [all] at among
    rcases List.mem_cons.mp among with rfl | later
    · rfl
    · obtain ⟨number, inside, found⟩ := List.getElem_of_mem later
      have asked : requests[number]? = some requests[number] := List.getElem?_eq_getElem _
      exact (fitting number _ result asked (found ▸ List.getElem?_eq_getElem inside)).isOk
  · exact (congrArg Lamp.light lampIs).trans lit
  · exact (congrArg Lamp.applied lampIs).trans (applied.trans (Nat.zero_add _))
  · exact (congrArg Lamp.rejected lampIs).trans rejected
  · intro number meshId asked
    have inside : number < given.length := by
      rw [length]
      exact (List.getElem?_eq_some_iff.mp asked).1
    obtain ⟨notification, is, reports⟩ :=
      fitting number _ _ asked (List.getElem?_eq_getElem inside)
    obtain ⟨lit, sequence, -, -⟩ := Lamp.after_eq (requests.take number) bulb.lamp
    refine ⟨notification, ?_, ?_, ?_, ?_⟩
    · rw [all, List.getElem?_cons_succ, List.getElem?_eq_getElem inside, is]
    · rw [reports.source, lit]
      exact Lamp.shown_meshId _ _
    · have counted : Lamp.statusReads (requests.take (number + 1)) =
          Lamp.statusReads (requests.take number) + 1 := by
        simp [Lamp.statusReads, List.take_add_one, asked]
      have none : bulb.lamp.sequence = 0 := rfl
      rw [reports.sequence, Bulb.numberOf_sequenceBytes, counted]
      rw [none] at sequence
      omega
    · rw [reports.payload, lit]
      rfl

/-- A light in some mesh. -/
def someLight : BulbSettings :=
  { address := ⟨Vector.replicate 6 0⟩, credentials := ⟨"mesh", "word", by decide, by decide⟩ }

/-- A controller for this light. -/
def someController : Controller :=
  { address := someLight.address, credentials := someLight.credentials, bound := defaultBound,
    random := { word := fun _ => 7 } }

/-- A command and a status behind a pairing. -/
theorem bulb_is_lamp_lit :
    let reached := (Conversation.start someController
      (Bulb.new someLight { word := fun _ => 5 })).goOn
        [(0, .pair), (0, .light (.power true)), (0, .status)]
    let lit := { (Bulb.new someLight { word := fun _ => 5 }).light with on := true }
    reached.world.transport.light = lit ∧
      ∃ notification, reached.results[2]? = some (.ok (.notification notification)) ∧
        Light.Status.decode notification.payload = .ok lit := by
  have facts := bulb_is_lamp someController someLight { word := fun _ => 5 }
    [(0, .light (.power true)), (0, .status)] rfl rfl (by decide)
  obtain ⟨-, -, light, -, -, statuses⟩ := facts
  obtain ⟨notification, given, -, -, decoded⟩ := statuses 1 0 rfl
  exact ⟨light, notification, given, decoded⟩

end Session

end MeshLight
