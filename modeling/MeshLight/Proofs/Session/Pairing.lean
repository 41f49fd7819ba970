import MeshLight.Proofs.Bytes
import MeshLight.Proofs.Session.Abort
import MeshLight.Session.Pairing

/-!
# What a pairing comes to

A pairing on a transport that follows a script meets at most three turns. The outcomes of its three
steps, the bytes of the last one and whether any of the turns was disturbed decide everything: which
calls are made, what is answered, and whether there is a key.

A link lost just after a report is seen by no step. It is the count of losses, taken before the
first step and compared when the key is installed, that notices it.
-/

namespace MeshLight.Session

open Link (Disturbance Tracker Report Script Contact Access)

namespace Controller

/-! ## The three steps -/

/-- The calls of a complete pairing, in order. -/
def pairingAccesses (controller : Controller) (random : SessionRandom) : List Access :=
  [.write .pairing (Frame.encodePairRequest controller.credentials random),
    .write .status [0x01],
    .read .pairing]

section Outcomes

variable (script : Script) (controller : Controller) (world : World (List Contact))

/-- How the step that writes the request ends. -/
def requested : Except Failure Unit :=
  Step.outcome Step.taken controller.bound "pair request" world.tracker.cancelled
    (script world.transport.length)

/-- How the step that asks for an echo ends, if it is made. -/
def echoed : Except Failure Unit :=
  Step.outcome Step.taken controller.bound "status echo" world.tracker.cancelled
    (script (world.transport.length + 1))

/-- How the step that reads the response ends, if it is made. -/
def responded : Except Failure Bytes :=
  Step.outcome Report.response controller.bound "pair response" world.tracker.cancelled
    (script (world.transport.length + 2))

end Outcomes

/-- How many steps are made if the first two end like this: a step that fails is the last one. -/
def stepsMade : Except Failure Unit → Except Failure Unit → Nat
  | .error _, _ => 1
  | .ok _, .error _ => 2
  | .ok _, .ok _ => 3

/-- What the bytes of a response say: the key, or why there is none. -/
def responseKey (controller : Controller) (random : SessionRandom) (response : Bytes) :
    Except Failure SessionKey :=
  match Frame.decodePairResponse response with
  | .error fault => .error (.protocol fault.message)
  | .ok (.accepted device) => .ok (Frame.deriveSessionKey controller.credentials random device)
  | .ok .rejected => .error (.authentication controller.address)
  | .ok (.unexpected tag) =>
    .error (.protocol ("unexpected pair response tag " ++ Frame.byteName tag))

/-- What the conversation gives, by the outcomes of its steps. -/
def conversed (controller : Controller) (random : SessionRandom)
    (first second : Except Failure Unit) (third : Except Failure Bytes) :
    Except Failure SessionKey := do
  first
  second
  controller.responseKey random (← third)

/-- The conversation of a pairing as far as the response. -/
def converse (controller : Controller) (random : SessionRandom) : Attempt Bytes := do
  controller.write "pair request" .pairing
    (Frame.encodePairRequest controller.credentials random)
  controller.write "status echo" .status Frame.statusEcho
  controller.read "pair response" .pairing

/-- The conversation gives the response, and from it the key. -/
theorem finish_handshake_response {State : Type} (transport : Link.Transport State)
    (controller : Controller) (random : SessionRandom) (world : World State) :
    (controller.handshake random).run.finish transport world =
      match (controller.converse random).run.finish transport world with
      | (.ok response, later) => (controller.responseKey random response, later)
      | (.error failure, later) => (.error failure, later) := by
  simp only [handshake, converse, Procedure.finish_attempt]
  generalize (controller.write "pair request" .pairing
    (Frame.encodePairRequest controller.credentials random)).run.finish transport world = asked
  obtain ⟨_ | _, asked⟩ := asked
  · rfl
  · dsimp only
    generalize (controller.write "status echo" .status Frame.statusEcho).run.finish transport
      asked = echoed
    obtain ⟨_ | _, echoed⟩ := echoed
    · rfl
    · dsimp only
      generalize (controller.read "pair response" .pairing).run.finish transport echoed = answered
      obtain ⟨_ | response, answered⟩ := answered
      · rfl
      · dsimp only [responseKey]
        cases Frame.decodePairResponse response with
        | error fault => rfl
        | ok said => cases said <;> rfl

/-- The conversation gives its first failure, or what the response says, and its calls are those of
the steps that were made. -/
theorem finish_handshake (script : Script) (controller : Controller) (random : SessionRandom)
    (world : World (List Contact)) :
    ∃ later, (controller.handshake random).run.finish script.transport world =
        (controller.conversed random (controller.requested script world)
          (controller.echoed script world) (controller.responded script world), later) ∧
      Stepped script ((controller.pairingAccesses random).take
        (stepsMade (controller.requested script world) (controller.echoed script world)))
        world later := by
  have firstIs : Step.outcome Step.taken controller.bound "pair request" world.tracker.cancelled
      (script world.transport.length) = controller.requested script world := rfl
  have secondIs : Step.outcome Step.taken controller.bound "status echo" world.tracker.cancelled
      (script (world.transport.length + 1)) = controller.echoed script world := rfl
  have thirdIs : Step.outcome Report.response controller.bound "pair response"
      world.tracker.cancelled (script (world.transport.length + 2)) =
        controller.responded script world := rfl
  generalize controller.requested script world = first at *
  generalize controller.echoed script world = second at *
  generalize controller.responded script world = third at *
  rw [finish_handshake_response]
  simp only [converse, write, read, Procedure.finish_attempt, Step.finish_scripted_write,
    Step.finish_scripted_read, firstIs]
  have one := Stepped.behind script
    (.write .pairing (Frame.encodePairRequest controller.credentials random)) first world
  generalize Step.behind script
    (.write .pairing (Frame.encodePairRequest controller.credentials random)) first world = asked
    at *
  cases first with
  | error failure => exact ⟨asked, rfl, one⟩
  | ok _ =>
    have same : asked.tracker.cancelled = world.tracker.cancelled :=
      one.mark_eq (by simpa using (Step.outcome_ok firstIs).2)
    have met : asked.transport.length = world.transport.length + 1 := one.length
    simp only [same, met, secondIs]
    have next := Stepped.behind script (.write .status Frame.statusEcho) second asked
    have two := one.trans next
    generalize Step.behind script (.write .status Frame.statusEcho) second asked = heard at *
    cases second with
    | error failure => exact ⟨heard, rfl, two⟩
    | ok _ =>
      have still : heard.tracker.cancelled = world.tracker.cancelled :=
        (next.mark_eq (by simpa [met] using (Step.outcome_ok secondIs).2)).trans same
      have metBoth : heard.transport.length = world.transport.length + 2 := two.length
      simp only [still, metBoth, thirdIs]
      have three := two.trans (Stepped.behind script (.read .pairing) third heard)
      generalize Step.behind script (.read .pairing) third heard = answered at *
      cases third with
      | error failure => exact ⟨answered, rfl, three⟩
      | ok response => exact ⟨answered, rfl, three⟩

/-- The conversation is made of steps. -/
theorem handshake_conducted (script : Script) (controller : Controller) (random : SessionRandom)
    {world : World (List Contact)} (begun : Sealed world.tracker) :
    Conducted script (controller.handshake random) world := by
  refine (Conducted.write begun _ _ _ _).bind fun _ asked running => ?_
  refine (Conducted.write (.of_running running) _ _ _ _).bind fun _ heard running => ?_
  refine (Conducted.read (.of_running running) _ _ _).bind fun response answered running => ?_
  cases Frame.decodePairResponse response with
  | error fault => exact .fail running rfl
  | ok said =>
    cases said with
    | accepted device => exact .succeed running _
    | rejected => exact .fail running rfl
    | unexpected tag => exact .fail running rfl

/-! ## What a response says -/

/-- A response accepts and is long enough, rejects, or is outside the protocol. -/
theorem response_kinds (response : Bytes) :
    (9 ≤ response.length ∧ response.head? = some 0x0d) ∨ response.head? = some 0x0e ∨
      response = [] ∨ (response.head? = some 0x0d ∧ response.length < 9) ∨
        ∃ tag, response.head? = some tag ∧ tag ≠ 0x0d ∧ tag ≠ 0x0e := by
  cases response with
  | nil => exact .inr (.inr (.inl rfl))
  | cons tag body =>
    by_cases accepts : tag = 0x0d
    · subst accepts
      by_cases long : 9 ≤ (0x0d :: body : Bytes).length
      · exact .inl ⟨long, rfl⟩
      · exact .inr (.inr (.inr (.inl ⟨rfl, Nat.lt_of_not_le long⟩)))
    · by_cases rejects : tag = 0x0e
      · exact .inr (.inl (congrArg some rejects))
      · exact .inr (.inr (.inr (.inr ⟨tag, rfl, accepts, rejects⟩)))

/-- An accepting response that is long enough gives the key of its random. -/
theorem responseKey_accepted (controller : Controller) (random : SessionRandom) {response : Bytes}
    (enough : 9 ≤ response.length) (tag : response.head? = some 0x0d) :
    ∃ remote : SessionRandom, remote.bytes.toList = (response.drop 1).take 8 ∧
      controller.responseKey random response =
        .ok (Frame.deriveSessionKey controller.credentials random remote) := by
  cases response with
  | nil => cases tag
  | cons first body =>
    have accepts : first = Frame.pairAcceptedTag := Option.some.inj tag
    have long : ¬body.length < 8 := by
      simp only [List.length_cons] at enough
      omega
    refine ⟨⟨Bytes.fitted 8 body⟩, ?_, ?_⟩
    · exact Bytes.fitted_toList 8 body (by omega)
    · simp [responseKey, Frame.decodePairResponse, accepts, long]

/-- A response that rejects the credentials. -/
theorem responseKey_rejected (controller : Controller) (random : SessionRandom) {response : Bytes}
    (tag : response.head? = some 0x0e) :
    controller.responseKey random response = .error (.authentication controller.address) := by
  cases response with
  | nil => cases tag
  | cons first body =>
    have rejects : first = Frame.pairRejectedTag := Option.some.inj tag
    simp [responseKey, Frame.decodePairResponse, rejects, Frame.pairRejectedTag,
      Frame.pairAcceptedTag]

/-- Every other response is outside the protocol. -/
theorem responseKey_outside (controller : Controller) (random : SessionRandom) {response : Bytes}
    (outside : response = [] ∨ (response.head? = some 0x0d ∧ response.length < 9) ∨
      ∃ tag, response.head? = some tag ∧ tag ≠ 0x0d ∧ tag ≠ 0x0e) :
    ∃ detail, controller.responseKey random response = .error (.protocol detail) := by
  rcases outside with rfl | ⟨tag, short⟩ | ⟨tag, head, unaccepted, unrejected⟩
  · exact ⟨_, rfl⟩
  · cases response with
    | nil => cases tag
    | cons first body =>
      have accepts : first = Frame.pairAcceptedTag := Option.some.inj tag
      have brief : body.length < 8 := by
        simp only [List.length_cons] at short
        omega
      exact ⟨_, by simp [responseKey, Frame.decodePairResponse, accepts, brief]; rfl⟩
  · cases response with
    | nil => cases head
    | cons first body =>
      have same : first = tag := Option.some.inj head
      exact ⟨"unexpected pair response tag " ++ Frame.byteName tag, by
        simp [responseKey, Frame.decodePairResponse, same, Frame.pairAcceptedTag,
          Frame.pairRejectedTag, unaccepted, unrejected]⟩

/-! ## Installing the key -/

/-- A key is installed if nobody tore the tracker down and the link was not lost since its losses
were counted. -/
theorem finish_install {State : Type} (transport : Link.Transport State) (world : World State)
    (key : SessionKey) (epoch : Nat) :
    (install key epoch).run.finish transport world =
      if world.tracker.cancelled = true then (.error .cancelled, world)
      else if world.tracker.epoch = epoch then
        (.ok (), world.withTracker { world.tracker with key := some key })
      else (.error (.linkLost "session key"), world) := by
  have opened : (install key epoch).run.finish transport world =
      (do
        if ← Procedure.installKey key epoch then
          return .ok ()
        else if ← Procedure.isCancelled then
          return .error .cancelled
        else
          return .error (.linkLost "session key") :
            Procedure (Except Failure Unit)).finish transport world := rfl
  rw [opened]
  cases torn : world.tracker.cancelled <;> by_cases same : world.tracker.epoch = epoch <;>
    simp [Tracker.installKey, torn, same, World.withTracker]

/-- The key of a pairing: that of the conversation, if none of its turns was disturbed. -/
def securedKey (keyed : Except Failure SessionKey) (disturbances : List Disturbance) :
    Except Failure SessionKey := do
  let key ← keyed
  if disturbances = [] then return key else throw (.linkLost "session key")

theorem securedKey_calm (key : SessionKey) : securedKey (.ok key) [] = .ok key := rfl

theorem securedKey_disturbed (key : SessionKey) {disturbances : List Disturbance}
    (disturbed : disturbances ≠ []) :
    securedKey (.ok key) disturbances = .error (.linkLost "session key") := by
  change (if disturbances = [] then _ else _) = _
  rw [if_neg disturbed]
  rfl

/-- A conversation that gives a key made all three steps. -/
theorem stepsMade_of_key {controller : Controller} {random : SessionRandom}
    {first second : Except Failure Unit} {third : Except Failure Bytes} {key : SessionKey}
    (reached : controller.conversed random first second third = .ok key) :
    stepsMade first second = 3 := by
  cases first with
  | error failure => cases reached
  | ok _ =>
    cases second with
    | error failure => cases reached
    | ok _ => rfl

section Secured

variable (script : Script) (controller : Controller) (random : SessionRandom)
  (world : World (List Contact))

/-- The key that a pairing on a script secures, or why it secures none. -/
def secured : Except Failure SessionKey :=
  securedKey
    (controller.conversed random (controller.requested script world)
      (controller.echoed script world) (controller.responded script world))
    (met script world.transport.length 3)

/-- The attempt of a pairing leaves the key that it secured and no other.

A success has met no cancellation, so a turn was disturbed exactly if the losses moved. -/
theorem finish_attempt (empty : world.tracker.key = none) :
    ∃ later, (do
        let key ← controller.handshake random
        install key world.tracker.epoch : Attempt Unit).run.finish script.transport world =
          ((controller.secured script random world).map fun _ => (), later) ∧
      later.transport.map Contact.access? = world.transport.map Contact.access? ++
        ((controller.pairingAccesses random).take
          (stepsMade (controller.requested script world) (controller.echoed script world))).map
            some ∧
      later.tracker.key = (controller.secured script random world).toOption ∧
      Ended (controller.secured script random world) later ∧
      (Idle world.tracker → Idle later.tracker) := by
  obtain ⟨later, finished, stepped⟩ := finish_handshake script controller random world
  obtain ⟨_, -, ended⟩ :=
    handshake_conducted script controller random (fun _ => empty : Sealed world.tracker)
  rw [finished] at ended
  rw [Procedure.finish_attempt, finished, secured]
  have allMade : ∀ key, controller.conversed random (controller.requested script world)
      (controller.echoed script world) (controller.responded script world) = .ok key →
        stepsMade (controller.requested script world) (controller.echoed script world) = 3 :=
    fun _ reached => stepsMade_of_key reached
  generalize controller.conversed random (controller.requested script world)
    (controller.echoed script world) (controller.responded script world) = keyed at *
  cases keyed with
  | error failure =>
    exact ⟨later, rfl, stepped.calls, stepped.keyless empty, ended, stepped.idle⟩
  | ok key =>
    have running : later.tracker.cancelled = false := ended.running rfl
    have turns : ((controller.pairingAccesses random).take
        (stepsMade (controller.requested script world) (controller.echoed script world))).length =
          3 := by
      simp [allMade key rfl, pairingAccesses]
    have uncancelled : .cancel ∉ met script world.transport.length 3 := by
      have mark := stepped.mark
      rw [turns, running] at mark
      simpa using (Bool.or_eq_false_iff.mp mark.symm).2
    have unmoved : later.tracker.epoch = world.tracker.epoch ↔
        met script world.transport.length 3 = [] := by
      rw [stepped.losses, turns]
      constructor
      · intro same
        have kept : .linkLost ∉ met script world.transport.length 3 :=
          List.count_eq_zero.mp (by omega)
        refine List.eq_nil_iff_forall_not_mem.mpr fun disturbance among => ?_
        cases disturbance with
        | linkLost => exact kept among
        | cancel => exact uncancelled among
      · intro calm
        simp [calm]
    simp only [finish_install, running, Bool.false_eq_true, if_false, unmoved]
    by_cases calm : met script world.transport.length 3 = []
    · simp only [calm, if_true, securedKey_calm]
      exact ⟨_, rfl, stepped.calls, rfl, ⟨fun _ => rfl, fun _ => rfl, nofun, nofun⟩,
        fun idle => ⟨(stepped.idle idle).phase, (stepped.idle idle).response,
          (stepped.idle idle).error⟩⟩
    · simp only [calm, if_false, securedKey_disturbed key calm]
      exact ⟨later, rfl, stepped.calls, stepped.keyless empty,
        ⟨nofun, nofun, fun _ _ => stepped.keyless empty, nofun⟩, stepped.idle⟩

/-! ## The whole pairing -/

/-- The world in which a pairing makes its first call: the key is dropped. -/
def pairingBegun {State : Type} (world : World State) : World State :=
  { tracker := { world.tracker with key := none }
    transport := world.transport
    events := world.events ++ [.pairingStarted]
    counts := world.counts ++ [.pairingAttempt] }

/-- A pairing is its attempt and what concludes it. -/
theorem finish_pair {State : Type} (transport : Link.Transport State) (world : World State) :
    let drawn := controller.drawRandom
    let attempt := (do
      let key ← drawn.2.handshake drawn.1
      install key world.tracker.epoch : Attempt Unit).run.finish transport (pairingBegun world)
    controller.pair.finish transport world =
      ((attempt.1, drawn.2), ((concludePairing attempt.1).finish transport attempt.2).2) := by
  intro drawn attempt
  simp only [pair, Procedure.finish_bind, Procedure.finish_count, Procedure.finish_clearKey,
    Procedure.finish_lossCount, Procedure.finish_emit, Procedure.finish_pure]
  rfl

/-- A pairing is concluded like every operation. -/
theorem pairing_concluded {Value : Type} (result : Except Failure Value)
    (ended : Ended result world) :
    Concluded result world
      ((concludePairing (result.map fun _ => ())).finish script.transport world).2 := by
  cases result with
  | ok value => exact .of_success value rfl rfl
  | error failure =>
    simp only [concludePairing, Except.map, Procedure.finish_bind, Procedure.finish_count,
      Procedure.finish_emit]
    exact .of_failure script failure ended rfl rfl

/-- A pairing ends with the key that it secured in the slot, or with an empty slot and the
failure. -/
theorem pair_secures :
    ∃ final, controller.pair.finish script.transport world =
        (((controller.secured script controller.drawRandom.1 world).map fun _ => (),
          controller.drawRandom.2), final) ∧
      final.transport.map Contact.access? = world.transport.map Contact.access? ++
        ((controller.pairingAccesses controller.drawRandom.1).take
          (stepsMade (controller.requested script world) (controller.echoed script world))).map
            some ++
        (if dropsLink (controller.secured script controller.drawRandom.1 world) = true then [none]
          else []) ∧
      final.tracker.key = (controller.secured script controller.drawRandom.1 world).toOption ∧
      (Idle world.tracker → Idle final.tracker) ∧ Sealed final.tracker ∧
      ∀ fault, controller.secured script controller.drawRandom.1 world ≠
        .error (.invalidCredentials fault) := by
  obtain ⟨later, attempted, calls, key, ended, idle⟩ :=
    finish_attempt script controller.drawRandom.2 controller.drawRandom.1 (pairingBegun world) rfl
  have same : controller.drawRandom.2.secured script controller.drawRandom.1 (pairingBegun world) =
      controller.secured script controller.drawRandom.1 world := rfl
  rw [same] at attempted key ended
  have concluded := pairing_concluded script later _ ended
  refine ⟨_, ?_, ?_, ?_, fun begun =>
    concluded.idle (idle ⟨begun.phase, begun.response, begun.error⟩), ?_, ended.accepting⟩
  · rw [finish_pair]
    exact congrArg (fun attempt => ((attempt.1, controller.drawRandom.2),
      ((concludePairing attempt.1).finish script.transport attempt.2).2)) attempted
  · rw [concluded.calls, calls]
    rfl
  · rw [concluded.key, key]
    cases controller.secured script controller.drawRandom.1 world with
    | ok key => rfl
    | error failure => split <;> rfl
  · apply concluded.torn
    rcases ends : controller.secured script controller.drawRandom.1 world with failure | installed
    · rw [ends] at key
      exact fun _ => key
    · exact .of_running (ended.running (by rw [ends]; rfl))

variable {script controller random world}

/-- A key is secured only if all three steps succeed, the response accepts and is long enough, and
no turn was disturbed. It is the key of the two randoms. -/
theorem of_secured {key : SessionKey} (ends : controller.secured script random world = .ok key) :
    controller.requested script world = .ok () ∧ controller.echoed script world = .ok () ∧
      met script world.transport.length 3 = [] ∧
      ∃ response remote, controller.responded script world = .ok response ∧
        9 ≤ response.length ∧ response.head? = some 0x0d ∧
        remote.bytes.toList = (response.drop 1).take 8 ∧
        key = Frame.deriveSessionKey controller.credentials random remote := by
  unfold secured at ends
  generalize controller.requested script world = first at *
  generalize controller.echoed script world = second at *
  generalize controller.responded script world = third at *
  cases first with
  | error failure => cases ends
  | ok _ =>
    cases second with
    | error failure => cases ends
    | ok _ =>
      cases third with
      | error failure => cases ends
      | ok response =>
        change securedKey (controller.responseKey random response) _ = .ok key at ends
        rcases response_kinds response with ⟨enough, tag⟩ | tag | outside
        · obtain ⟨remote, bytes, keyed⟩ := responseKey_accepted controller random enough tag
          rw [keyed] at ends
          by_cases calm : met script world.transport.length 3 = []
          · rw [calm, securedKey_calm] at ends
            exact ⟨rfl, rfl, calm, response, remote, rfl, enough, tag, bytes,
              (Except.ok.inj ends).symm⟩
          · rw [securedKey_disturbed _ calm] at ends
            cases ends
        · rw [responseKey_rejected controller random tag] at ends
          cases ends
        · obtain ⟨detail, keyed⟩ := responseKey_outside controller random outside
          rw [keyed] at ends
          cases ends

/-- Once all three steps succeeded, the response and the disturbances decide. -/
theorem secured_responded {response : Bytes} (first : controller.requested script world = .ok ())
    (second : controller.echoed script world = .ok ())
    (third : controller.responded script world = .ok response) :
    controller.secured script random world =
      securedKey (controller.responseKey random response)
        (met script world.transport.length 3) := by
  rw [secured, first, second, third]
  rfl

/-- A pairing secures a key exactly if all three steps succeed, the response accepts and is long
enough, and no turn was disturbed. -/
theorem secured_isOk_iff :
    (controller.secured script random world).isOk = true ↔
      controller.requested script world = .ok () ∧ controller.echoed script world = .ok () ∧
        (∃ response, controller.responded script world = .ok response ∧ 9 ≤ response.length ∧
          response.head? = some 0x0d) ∧ met script world.transport.length 3 = [] := by
  constructor
  · intro succeeded
    rcases ends : controller.secured script random world with failure | installed
    · rw [ends] at succeeded
      cases succeeded
    · obtain ⟨one, two, quiet, response, _, three, enough, tag, -, -⟩ := of_secured ends
      exact ⟨one, two, ⟨response, three, enough, tag⟩, quiet⟩
  · rintro ⟨one, two, ⟨response, three, enough, tag⟩, quiet⟩
    obtain ⟨remote, -, keyed⟩ := responseKey_accepted controller random enough tag
    rw [secured_responded one two three, keyed, quiet]
    rfl

/-- The first step that fails decides. -/
theorem secured_failed {failure : Failure}
    (failed : controller.requested script world = .error failure ∨
      (controller.requested script world = .ok () ∧
        controller.echoed script world = .error failure) ∨
      (controller.requested script world = .ok () ∧ controller.echoed script world = .ok () ∧
        controller.responded script world = .error failure)) :
    controller.secured script random world = .error failure := by
  unfold secured
  rcases failed with one | ⟨one, two⟩ | ⟨one, two, three⟩
  · rw [one]
    rfl
  · rw [one, two]
    rfl
  · rw [one, two, three]
    rfl

/-- If no step fails, the response decides, and a disturbance refuses even a response that
accepts. -/
theorem secured_refused {response : Bytes} (first : controller.requested script world = .ok ())
    (second : controller.echoed script world = .ok ())
    (third : controller.responded script world = .ok response) :
    (response.head? = some 0x0e →
        controller.secured script random world = .error (.authentication controller.address)) ∧
      (response = [] ∨ (response.head? = some 0x0d ∧ response.length < 9) ∨
          (∃ tag, response.head? = some tag ∧ tag ≠ 0x0d ∧ tag ≠ 0x0e) →
        ∃ detail, controller.secured script random world = .error (.protocol detail)) ∧
      (9 ≤ response.length ∧ response.head? = some 0x0d →
        met script world.transport.length 3 ≠ [] →
        controller.secured script random world = .error (.linkLost "session key")) := by
  rw [secured_responded first second third]
  refine ⟨fun tag => ?_, fun outside => ?_, ?_⟩
  · rw [responseKey_rejected controller random tag]
    rfl
  · obtain ⟨detail, keyed⟩ := responseKey_outside controller random outside
    exact ⟨detail, by rw [keyed]; rfl⟩
  · rintro ⟨enough, tag⟩ disturbed
    obtain ⟨remote, -, keyed⟩ := responseKey_accepted controller random enough tag
    rw [keyed, securedKey_disturbed _ disturbed]

end Secured

/-- What a pairing comes to, for every state of the controller and of the tracker and every script.

Its calls are the request, the status echo and the read of the response, up to the first step that
fails, and then the request to drop the link if the failure asks for it. It succeeds exactly if all
three steps do, the response accepts and is long enough, and no turn was disturbed; then the slot
holds the key of the two randoms. Otherwise the slot is empty, and the failure is that of the first
failing step, else what the response says, else a lost link. -/
theorem pairing_exact (script : Script) (controller : Controller) (world : World (List Contact)) :
    let first := controller.requested script world
    let second := controller.echoed script world
    let third := controller.responded script world
    let calm := ∀ number < 3, (script (world.transport.length + number)).disturbances = []
    let accepting (response : Bytes) := 9 ≤ response.length ∧ response.head? = some 0x0d
    ∃ random result after final,
      controller.pair.finish script.transport world = ((result, after), final) ∧
      after.lastRandom = some random ∧
      final.transport.map Contact.access? = world.transport.map Contact.access? ++
        ((controller.pairingAccesses random).take (stepsMade first second)).map some ++
        (if dropsLink result = true then [none] else []) ∧
      (result = .ok () ↔ first = .ok () ∧ second = .ok () ∧
        (∃ response, third = .ok response ∧ accepting response) ∧ calm) ∧
      (result = .ok () → ∃ response remote, third = .ok response ∧
        remote.bytes.toList = (response.drop 1).take 8 ∧
        final.tracker.key = some (Frame.deriveSessionKey controller.credentials random remote)) ∧
      (result ≠ .ok () → final.tracker.key = none) ∧
      (∀ failure, first = .error failure → result = .error failure) ∧
      (∀ failure, first = .ok () → second = .error failure → result = .error failure) ∧
      (∀ failure, first = .ok () → second = .ok () → third = .error failure →
        result = .error failure) ∧
      (∀ response, first = .ok () → second = .ok () → third = .ok response →
        (response.head? = some 0x0e → result = .error (.authentication controller.address)) ∧
        (response = [] ∨ (response.head? = some 0x0d ∧ response.length < 9) ∨
            (∃ tag, response.head? = some tag ∧ tag ≠ 0x0d ∧ tag ≠ 0x0e) →
          ∃ detail, result = .error (.protocol detail)) ∧
        (accepting response → ¬calm → result = .error (.linkLost "session key"))) := by
  intro first second third calm accepting
  obtain ⟨final, finished, calls, key, -⟩ := pair_secures script controller world
  have calmly : met script world.transport.length 3 = [] ↔ calm := met_eq_nil _ _ _
  refine ⟨controller.drawRandom.1, _, _, final, finished, rfl, ?_⟩
  have failing {failure : Failure}
      (failed : controller.secured script controller.drawRandom.1 world = .error failure) :
      (controller.secured script controller.drawRandom.1 world).map (fun _ => ()) =
        .error failure := by
    rw [failed]
    rfl
  refine ⟨?_, ?_, ?_, ?_, ?_, ?_, ?_, ?_⟩
  · have drops : dropsLink ((controller.secured script controller.drawRandom.1 world).map
        fun _ => ()) = dropsLink (controller.secured script controller.drawRandom.1 world) := by
      cases controller.secured script controller.drawRandom.1 world <;> rfl
    rw [drops]
    exact calls
  · rw [← calmly, ← @secured_isOk_iff script controller controller.drawRandom.1 world]
    cases controller.secured script controller.drawRandom.1 world with
    | error failure => exact ⟨nofun, nofun⟩
    | ok installed => exact ⟨fun _ => rfl, fun _ => rfl⟩
  · intro succeeded
    rcases ends : controller.secured script controller.drawRandom.1 world with failure | installed
    · rw [ends] at succeeded
      cases succeeded
    · obtain ⟨-, -, -, response, remote, three, -, -, bytes, derived⟩ := of_secured ends
      refine ⟨response, remote, three, bytes, ?_⟩
      rw [key, ends, ← derived]
      rfl
  · intro failed
    rw [key]
    cases ends : controller.secured script controller.drawRandom.1 world with
    | error failure => rfl
    | ok installed => exact (failed (by rw [ends]; rfl)).elim
  · exact fun failure one => failing (secured_failed (.inl one))
  · exact fun failure one two => failing (secured_failed (.inr (.inl ⟨one, two⟩)))
  · exact fun failure one two three => failing (secured_failed (.inr (.inr ⟨one, two, three⟩)))
  · intro response one two three
    obtain ⟨rejected, outside, disturbed⟩ :=
      @secured_refused script controller controller.drawRandom.1 world response one two three
    refine ⟨fun tag => failing (rejected tag), fun kind => ?_, fun enough stirred => ?_⟩
    · obtain ⟨detail, failed⟩ := outside kind
      exact ⟨detail, failing failed⟩
    · exact failing (disturbed enough fun quiet => stirred (calmly.mp quiet))

end Controller

end MeshLight.Session
