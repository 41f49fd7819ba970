import MeshLight.Proofs.Session.Exchange
import MeshLight.Proofs.Session.Migration
import MeshLight.Proofs.Session.Stepwise

/-!
# Operations keep the two sides in agreement

A pairing drops the key before it asks for one, so nothing can disagree while the bulb answers.
Each of its steps passes on what the answer of the bulb claims: the request, that the bulb vouches
for the response that waits; the read, that it vouches for these bytes. The key derived from them is
then that of the bulb. The other operations never ask for a pairing, and whoever drops the link
drops the key first.
-/

namespace MeshLight.Session

open Link (Access)

variable {credentials : Credentials} {First Second : Type}

/-- An attempt and what stands behind it. -/
theorem Upholds.attempt {pre : Scene → Prop} {first : Attempt First}
    {second : First → Attempt Second} {middle : Except Failure First → Scene → Prop}
    {post : Except Failure Second → Scene → Prop}
    (begins : Upholds credentials pre first.run middle)
    (fails : ∀ failure scene, middle (.error failure) scene → post (.error failure) scene)
    (continues : ∀ value, Upholds credentials (middle (.ok value)) (second value).run post) :
    Upholds credentials pre (first >>= second).run post := by
  refine Upholds.bind begins fun result => ?_
  cases result with
  | error failure => exact Upholds.done fun scene now => fails failure scene now
  | ok value => exact continues value

/-! ## What a pairing passes on -/

/-- There is no key on this side. -/
def Keyless : Terms := fun key _ => key = none

/-- There is no key on this side, and the bulb vouches for some bytes of its own. -/
def Vouching (credentials : Credentials) (random : SessionRandom) (bytes : Bulb → Bytes) : Terms :=
  fun key bulb => key = none ∧ bulb.Vouches credentials random (bytes bulb)

/-- The link is up and the bulb has this key. -/
def Holding (installed : SessionKey) : Terms :=
  fun _ bulb => bulb.connected = true ∧ bulb.key = some installed

/-- Nobody else installs a key. -/
theorem Keyless.lasting : Lasting Keyless :=
  ⟨fun _ _ _ => rfl, fun _ _ now => now, fun _ _ _ now => now⟩

/-- Nobody else makes a bulb break its word. -/
theorem Vouching.lasting (credentials : Credentials) (random : SessionRandom)
    {bytes : Bulb → Bytes} (connect : ∀ bulb, bytes bulb.connect = bytes bulb)
    (setFaults : ∀ bulb faults, bytes (bulb.setFaults faults) = bytes bulb) :
    Lasting (Vouching credentials random bytes) := by
  refine ⟨fun _ _ now => ⟨rfl, now.2⟩, fun key bulb now => ⟨now.1, rfl, ?_⟩,
    fun key bulb faults now => ⟨now.1, now.2.connected, ?_⟩⟩
  · rw [connect]
    exact now.2.key
  · rw [setFaults]
    exact now.2.key

/-- Nobody else changes the key of a bulb. -/
theorem Holding.lasting (installed : SessionKey) : Lasting (Holding installed) :=
  ⟨fun _ _ now => now, fun _ _ now => ⟨rfl, now.2⟩, fun _ _ _ now => now⟩

/-- The response that waits. -/
def waitingResponse (bulb : Bulb) : Bytes :=
  bulb.pairResponse.getD []

/-- The terms under which a pairing goes on after its request. -/
theorem Vouching.waiting (credentials : Credentials) (random : SessionRandom) :
    Lasting (Vouching credentials random waitingResponse) :=
  Vouching.lasting credentials random (fun _ => rfl) fun _ _ => rfl

/-! ## Procedures that need nothing -/

/-- A procedure that keeps the two sides in agreement wherever it begins. -/
def Keeps (credentials : Credentials) (procedure : Procedure First) : Prop :=
  Upholds credentials (fun _ => True) procedure fun _ _ => True

/-- No pairing is asked for and no key is installed. -/
def Permission.unasking : Permission :=
  { access := fun access => requestRandom? access = none, install := False }

namespace Keeps

/-- The end. -/
theorem done (value : First) : Keeps credentials (pure value) :=
  Upholds.done fun _ now => now

/-- Procedures one after the other. -/
theorem bind {first : Procedure First} {second : First → Procedure Second}
    (begins : Keeps credentials first) (continues : ∀ value, Keeps credentials (second value)) :
    Keeps credentials (first >>= second) :=
  Upholds.bind begins continues

/-- A harmless action. -/
theorem action (action : Action) (harmless : action.harmless = true) :
    Keeps credentials (Procedure.of action) := by
  cases action with
  | reset =>
    exact Upholds.change Steady.trivial (fun tracker => ((), tracker.reset)) (fun _ => rfl)
      (fun _ _ held => held) (fun _ => Nat.le_succ _) fun _ _ _ now => now
  | setPhase phase =>
    exact Upholds.change Steady.trivial (fun tracker => ((), tracker.setPhase phase))
      (fun _ => rfl) (fun _ _ held => held) (fun _ => Nat.le_refl _) fun _ _ _ now => now
  | takeResponse =>
    exact Upholds.change Steady.trivial Link.Tracker.takeResponse (fun _ => rfl)
      (fun _ _ held => held) (fun _ => Nat.le_refl _) fun _ _ _ now => now
  | takeError =>
    exact Upholds.change Steady.trivial Link.Tracker.takeError (fun _ => rfl)
      (fun _ _ held => held) (fun _ => Nat.le_refl _) fun _ _ _ now => now
  | clearKey =>
    exact Upholds.change Steady.trivial Link.Tracker.clearKey (fun _ => rfl) nofun
      (fun _ => Nat.le_refl _) fun _ _ _ now => now
  | lossCount => exact Upholds.observe Steady.trivial (fun _ => rfl) fun _ now => now
  | sessionKey => exact Upholds.observe Steady.trivial (fun _ => rfl) fun _ now => now
  | isCancelled => exact Upholds.observe Steady.trivial (fun _ => rfl) fun _ now => now
  | emit event => exact Upholds.observe Steady.trivial (fun _ => rfl) fun _ now => now
  | count counted => exact Upholds.observe Steady.trivial (fun _ => rfl) fun _ now => now
  | queue => cases harmless
  | installKey key epoch => cases harmless
  | write characteristic value completion => cases harmless
  | read characteristic completion => cases harmless
  | callReturn => cases harmless
  | disconnect => cases harmless

/-- Whoever drops the link drops the key first. -/
theorem disconnect : Keeps credentials Controller.disconnect := by
  have clearKey : Upholds credentials (fun _ => True) Procedure.clearKey fun _ => Meets Keyless :=
    Upholds.change Steady.trivial Link.Tracker.clearKey (fun _ => rfl) nofun
      (fun _ => Nat.le_refl _) fun _ _ _ _ => rfl
  have drop : Upholds credentials (Meets Keyless) Procedure.disconnect fun _ _ => True := by
    refine Upholds.action Keyless.lasting.steady fun world sound now _ => ⟨?_, True.intro⟩
    refine ⟨fun installed held => ?_, sound.honest, sound.past⟩
    have empty : world.tracker.key = none := now
    have held : world.tracker.key = some installed := held
    simp [empty] at held
  refine clearKey.bind fun had => drop.bind fun _ => ?_
  split
  · exact Keeps.bind (.action (.count .disconnect) rfl) fun _ => .action (.emit .disconnected) rfl
  · exact Keeps.done ()

/-- A call that does not ask for a pairing needs nothing and claims nothing. -/
theorem exchange {access : Access} (other : requestRandom? access = none) :
    Exchange credentials access (fun _ _ => True) (fun _ _ => True) fun _ _ _ => True :=
  ⟨Lasting.trivial, Lasting.trivial, fun _ => Lasting.trivial, fun _ _ _ asks => absurd other asks,
    fun _ _ _ _ _ => ⟨True.intro, fun _ _ => True.intro⟩⟩

/-- Whatever asks for no pairing and installs no key keeps the two sides in agreement. -/
theorem of_stepwise {procedure : Procedure First} (stepwise : Stepwise .unasking procedure) :
    Keeps credentials procedure := by
  induction stepwise with
  | done value => exact done value
  | action action harmless => exact Keeps.action action harmless
  | installKey key epoch permitted => cases permitted
  | disconnect => exact disconnect
  | write bound step characteristic value other =>
    exact Upholds.weaken ((exchange other).write bound step) (fun _ now => now)
      fun _ _ _ => True.intro
  | read bound step characteristic other =>
    exact Upholds.weaken ((exchange other).read bound step) (fun _ now => now)
      fun _ _ _ => True.intro
  | bind _ _ begins continues => exact begins.bind continues

end Keeps

section Pairing

variable (credentials : Credentials) (random : SessionRandom)

/-- The request: once it is taken, the bulb vouches for its answer. -/
theorem request_exchange :
    Exchange credentials (.write .pairing (Frame.encodePairRequest credentials random)) Keyless
      Keyless fun report key bulb =>
        report = .written → Vouching credentials random waitingResponse key bulb where
  before := Keyless.lasting
  behind := Keyless.lasting
  claims report := (Vouching.waiting credentials random).under (report = .written)
  keyless _ _ now _ := now
  answers key bulb _ now discerns := by
    refine ⟨now, ?_⟩
    rintro report answered rfl
    exact ⟨now, bulb.write_request_vouches credentials random
      (discerns random (Frame.requestRandom?_encode credentials random)) answered⟩

/-- The status echo: the response still waits. -/
theorem echo_exchange :
    Exchange credentials (.write .status Frame.statusEcho)
      (Vouching credentials random waitingResponse) (Vouching credentials random waitingResponse)
      fun _ _ _ => True where
  before := Vouching.waiting credentials random
  behind := Vouching.waiting credentials random
  claims _ := Lasting.trivial
  keyless _ _ _ asks := absurd rfl asks
  answers key bulb _ now _ := by
    refine ⟨⟨now.1, ?_⟩, fun _ _ => True.intro⟩
    have counted : (Access.onBulb (.write .status Frame.statusEcho) bulb).2 = bulb.countWrite :=
      bulb.write_status Frame.statusEcho
    rw [counted]
    exact ⟨now.2.connected, now.2.key⟩

/-- The read of the response: the bulb vouches for the bytes. -/
theorem response_exchange :
    Exchange credentials (.read .pairing) (Vouching credentials random waitingResponse)
      (fun _ _ => True) fun report key bulb =>
        ∀ bytes, report = .delivered bytes →
          Vouching credentials random (fun _ => bytes) key bulb where
  before := Vouching.waiting credentials random
  behind := Lasting.trivial
  claims report := by
    have each (bytes : Bytes) : Lasting (Vouching credentials random fun _ => bytes) :=
      Vouching.lasting credentials random (fun _ => rfl) fun _ _ => rfl
    exact ⟨fun key bulb now bytes same => (each bytes).dropped key bulb (now bytes same),
      fun key bulb now bytes same => (each bytes).connected key bulb (now bytes same),
      fun key bulb faults now bytes same => (each bytes).faulty key bulb faults (now bytes same)⟩
  keyless _ _ _ asks := absurd rfl asks
  answers key bulb honest now _ := by
    refine ⟨True.intro, ?_⟩
    rintro report answered bytes rfl
    exact ⟨now.1, bulb.read_vouches credentials random honest now.2 bytes answered⟩

end Pairing

namespace Controller

variable (controller : Controller)

/-- The conversation of a pairing gives the key of the bulb. -/
theorem handshake_upholds (random : SessionRandom) :
    Upholds controller.credentials (Meets Keyless) (controller.handshake random).run
      fun result scene => ∀ installed, result = .ok installed →
        Meets (Holding installed) scene := by
  refine Upholds.attempt ((request_exchange controller.credentials random).write _ _)
    (fun _ _ _ _ failed => by cases failed) fun _ => ?_
  have echo := ((echo_exchange controller.credentials random).write controller.bound "status echo")
  refine Upholds.attempt (Upholds.weaken echo (fun _ now => now.2 rfl rfl) fun _ _ given => given)
    (fun _ _ _ _ failed => by cases failed) fun _ => ?_
  have response :=
    ((response_exchange controller.credentials random).read controller.bound "pair response")
  refine Upholds.attempt (Upholds.weaken response (fun _ now => now.1) fun _ _ given => given)
    (fun _ _ _ _ failed => by cases failed) fun bytes => ?_
  cases decoded : Frame.decodePairResponse bytes with
  | error fault => exact Upholds.done fun _ _ => nofun
  | ok answer =>
    cases answer with
    | accepted device =>
      refine Upholds.done fun scene now => ?_
      rintro _ ⟨⟩
      obtain ⟨-, vouches⟩ := now.2 bytes rfl bytes rfl
      exact ⟨vouches.connected, vouches.key device decoded⟩
    | rejected => exact Upholds.done fun _ _ => nofun
    | unexpected tag => exact Upholds.done fun _ _ => nofun

/-- A key that the bulb holds may be installed. -/
theorem install_upholds (key : SessionKey) (epoch : Nat) :
    Upholds credentials (Meets (Holding key)) (install key epoch).run fun _ _ => True := by
  have installKey : Upholds credentials (Meets (Holding key)) (Procedure.installKey key epoch)
      fun _ _ => True := by
    refine Upholds.action (Holding.lasting key).steady fun world sound now _ => ⟨?_, True.intro⟩
    have performed : ((Action.installKey key epoch).perform Courier.transport world).2.scene =
        (world.transport, (world.tracker.installKey key epoch).2) := rfl
    rw [performed]
    unfold Link.Tracker.installKey
    split
    · exact sound
    · refine ⟨?_, sound.honest, sound.past⟩
      rintro _ ⟨⟩
      exact now
  refine installKey.bind fun installed => ?_
  cases installed with
  | true => exact Keeps.done _
  | false =>
    refine Keeps.bind (.action .isCancelled rfl) fun torn => ?_
    cases torn with
    | true => exact .done _
    | false => exact .done _

/-- A pairing keeps the two sides in agreement. -/
theorem pair_keeps : Keeps controller.credentials controller.pair := by
  refine Keeps.bind (.action (.count .pairingAttempt) rfl) fun _ => ?_
  have clearKey : Upholds controller.credentials (fun _ => True) Procedure.clearKey
      fun _ => Meets Keyless :=
    Upholds.change Steady.trivial Link.Tracker.clearKey (fun _ => rfl) nofun
      (fun _ => Nat.le_refl _) fun _ _ _ _ => rfl
  have lossCount : Upholds controller.credentials (Meets Keyless) Procedure.lossCount
      fun _ => Meets Keyless :=
    Upholds.observe Keyless.lasting.steady (fun _ => rfl) fun _ now => now
  have emit : Upholds controller.credentials (Meets Keyless) (Procedure.emit .pairingStarted)
      fun _ => Meets Keyless :=
    Upholds.observe Keyless.lasting.steady (fun _ => rfl) fun _ now => now
  refine clearKey.bind fun _ => lossCount.bind fun epoch => emit.bind fun _ => ?_
  refine (Upholds.attempt (controller.drawRandom.2.handshake_upholds controller.drawRandom.1)
    (fun _ _ _ => True.intro) fun key => Upholds.weaken (install_upholds key epoch)
      (fun _ now => now key rfl) fun _ _ given => given).bind fun result => ?_
  exact Keeps.bind (.of_stepwise (concludePairing_stepwise result)) fun _ => .done _

/-! ## All operations -/

/-- None of the frames of a move is a pair request. -/
theorem migrationFrames_other {key : SessionKey} {target : Credentials} {longTermKey : Bytes}
    {frames : List Bytes} (framed : migrationFrames key target longTermKey = .ok frames) :
    ∀ frame ∈ frames, Frame.requestRandom? frame = none := by
  obtain ⟨-, rfl⟩ := migrationFrames_ok_iff.mp framed
  intro frame among
  obtain ⟨⟨field, value⟩, -, rfl⟩ := List.mem_map.mp among
  cases field <;> rfl

/-- Every operation keeps the two sides in agreement. A move does so whether or not the bulb takes
part in it. -/
theorem perform_keeps (meshId : UInt16) (request : Request) :
    Keeps controller.credentials (controller.perform meshId request) := by
  cases request with
  | pair => exact Keeps.bind controller.pair_keeps fun _ => .done _
  | light command =>
    exact Keeps.bind (.of_stepwise (controller.send_stepwise meshId command fun _ => rfl))
      fun _ => .done _
  | status =>
    exact Keeps.bind (.of_stepwise (controller.readStatus_stepwise rfl)) fun _ => .done _
  | migrate target longTermKey =>
    exact Keeps.bind (.of_stepwise (controller.migrate_stepwise target longTermKey
      (fun _ _ => migrationFrames_other) rfl)) fun _ => .done _

/-- So does the pairing for a link that became ready. -/
theorem greet_keeps : Keeps controller.credentials controller.greet := by
  refine Keeps.bind (.action .sessionKey rfl) fun held => ?_
  cases held with
  | some key => exact .done _
  | none => exact Keeps.bind controller.pair_keeps fun _ => .done _

end Controller

end MeshLight.Session
