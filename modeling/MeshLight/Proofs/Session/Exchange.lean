import MeshLight.Proofs.Session.Interference
import MeshLight.Proofs.Session.Step

/-!
# Steps under interference

A step learns about the bulb only through its own answer. When the bulb answers, something becomes
true of it and of the key; that is the claim of the answer. Until the step ends, the claim travels
with the answer: first with the courier, then with the phase and the bytes in the tracker. An answer
from an earlier step cannot be mistaken for it, because its cycle is over.

Claims and everything else that a step carries along speak of the key and the bulb only, and they
last: they survive the loss of the key, a new link and new faults.
-/

namespace MeshLight.Session

open Link (Access Characteristic Completion Phase Report Tracker Verdict)

/-- Something that may be true of the key in the tracker and of the bulb. -/
abbrev Terms := Option SessionKey → Bulb → Prop

/-- Terms that no other party can break: the key may be dropped, the link may come up, and faults
may be put in force. -/
structure Lasting (terms : Terms) : Prop where
  dropped : ∀ key bulb, terms key bulb → terms none bulb
  connected : ∀ key bulb, terms key bulb → terms key bulb.connect
  faulty : ∀ key bulb faults, terms key bulb → terms key (bulb.setFaults faults)

/-- The terms are met. -/
def Meets (terms : Terms) (scene : Scene) : Prop :=
  terms scene.2.key scene.1.bulb

/-- What a move does to the key and to the bulb, as far as terms can tell. -/
theorem Lasting.move {terms : Terms} (lasting : Lasting terms) (move : Move) (scene : Scene)
    (now : terms scene.2.key scene.1.bulb) :
    terms (move.apply scene).2.key (move.apply scene).1.bulb := by
  obtain ⟨courier, tracker⟩ := scene
  cases move with
  | disturbance content =>
    simp only [Move.apply, (Link.Disturbance.apply_frame content tracker).1]
    exact lasting.dropped _ _ now
  | deliver number =>
    unfold Move.apply
    dsimp only
    split
    · exact now
    · rename_i completion report _
      simp only [(tracker.complete_frame completion report).1]
      exact now
  | setFaults faults => exact lasting.faulty _ _ _ now
  | connect => exact lasting.connected _ _ now

/-- Lasting terms stay met. -/
theorem Lasting.steady {terms : Terms} (lasting : Lasting terms) : Steady (Meets terms) :=
  lasting.move

/-- Nothing lasts. -/
theorem Lasting.trivial : Lasting fun _ _ => True :=
  ⟨fun _ _ _ => True.intro, fun _ _ _ => True.intro, fun _ _ _ _ => True.intro⟩

/-- Both of two lasting terms. -/
theorem Lasting.and {first second : Terms} (one : Lasting first) (other : Lasting second) :
    Lasting fun key bulb => first key bulb ∧ second key bulb :=
  ⟨fun key bulb both => ⟨one.dropped key bulb both.1, other.dropped key bulb both.2⟩,
    fun key bulb both => ⟨one.connected key bulb both.1, other.connected key bulb both.2⟩,
    fun key bulb faults both =>
      ⟨one.faulty key bulb faults both.1, other.faulty key bulb faults both.2⟩⟩

/-- Terms that are only claimed under a condition that nobody changes. -/
theorem Lasting.under {terms : Terms} (lasting : Lasting terms) (condition : Prop) :
    Lasting fun key bulb => condition → terms key bulb :=
  ⟨fun key bulb now held => lasting.dropped key bulb (now held),
    fun key bulb now held => lasting.connected key bulb (now held),
    fun key bulb faults now held => lasting.faulty key bulb faults (now held)⟩

/-! ## Before the call -/

/-- A cycle that has just begun, with its terms met: all answers under way belong to earlier cycles,
no write was taken and no bytes came back. -/
structure Fresh (terms : Terms) (scene : Scene) : Prop where
  meets : terms scene.2.key scene.1.bulb
  past : ∀ job ∈ scene.1.jobs, job.1.cycle < scene.2.cycle
  unsent : scene.2.phase ≠ .sent
  empty : scene.2.response = none

/-- Nobody else can end what has not begun. -/
theorem Fresh.steady {terms : Terms} (lasting : Lasting terms) (cycle : Nat) :
    Steady fun scene => Fresh terms scene ∧ scene.2.cycle = cycle := by
  rintro move ⟨courier, tracker⟩ ⟨⟨meets, past, unsent, empty⟩, current⟩
  have still := lasting.move move (courier, tracker) meets
  cases move with
  | disturbance content =>
    have same := (Link.Disturbance.apply_frame content tracker).2
    refine ⟨⟨still, fun job among => same ▸ past job among, ?_, ?_⟩, same.trans current⟩
    · have phase := tracker.disturb_phase [content]
      rw [Tracker.disturb_cons, Tracker.disturb_nil] at phase
      simp only [Move.apply, phase]
      split
      · simp
      · exact unsent
    · have response := tracker.disturb_response [content]
      rw [Tracker.disturb_cons, Tracker.disturb_nil] at response
      have empty : tracker.response = none := empty
      simp [Move.apply, response, empty]
  | deliver number =>
    unfold Move.apply
    dsimp only
    split
    · exact ⟨⟨meets, past, unsent, empty⟩, current⟩
    · rename_i completion report found
      have ended := past (completion, report) (List.mem_of_getElem? found)
      have different : tracker.cycle ≠ completion.cycle := (Nat.ne_of_lt ended).symm
      have refused : (tracker.complete completion report).2 = tracker := by
        simp [Tracker.complete, different]
      rw [refused]
      exact ⟨⟨meets, fun job among => past job (List.mem_of_mem_eraseIdx among), unsent, empty⟩,
        current⟩
  | setFaults faults => exact ⟨⟨still, past, unsent, empty⟩, current⟩
  | connect => exact ⟨⟨still, past, unsent, empty⟩, current⟩

/-! ## After the call -/

/-- A step that waits for its answer, with its terms met. Whatever its answer claims is true,
wherever the answer is: still under way, recorded as a write that was taken, or in the bytes that
came back. -/
structure Awaiting (terms : Terms) (claim : Report → Terms) (scene : Scene) : Prop where
  meets : terms scene.2.key scene.1.bulb
  answered : ∀ job ∈ scene.1.jobs, job.1.cycle = scene.2.cycle →
    claim job.2 scene.2.key scene.1.bulb
  taken : scene.2.phase = .sent → claim .written scene.2.key scene.1.bulb
  brought : ∀ bytes, scene.2.response = some bytes →
    claim (.delivered bytes) scene.2.key scene.1.bulb

variable {terms after : Terms} {claim : Report → Terms}

/-- Whoever delivers the answer, its claim comes with it. -/
theorem Awaiting.steady (lasting : Lasting terms) (claims : ∀ report, Lasting (claim report)) :
    Steady (Awaiting terms claim) := by
  rintro move ⟨courier, tracker⟩ ⟨meets, answered, taken, brought⟩
  have still := lasting.move move (courier, tracker) meets
  have stays (report : Report) := (claims report).move move (courier, tracker)
  cases move with
  | disturbance content =>
    obtain ⟨-, same⟩ := Link.Disturbance.apply_frame content tracker
    refine ⟨still, fun job among current => stays _ (answered job among (same ▸ current)), ?_, ?_⟩
    · intro sent
      have phase := tracker.disturb_phase [content]
      rw [Tracker.disturb_cons, Tracker.disturb_nil] at phase
      refine stays _ (taken ?_)
      simp only [Move.apply, phase] at sent
      split at sent
      · cases sent
      · exact sent
    · intro bytes back
      have response := tracker.disturb_response [content]
      rw [Tracker.disturb_cons, Tracker.disturb_nil] at response
      refine stays _ (brought bytes ?_)
      simp only [Move.apply, response] at back
      split at back
      · cases back
      · exact back
  | deliver number =>
    clear still stays
    unfold Move.apply
    dsimp only
    split
    · exact ⟨meets, answered, taken, brought⟩
    · rename_i completion report found
      have among := List.mem_of_getElem? found
      obtain ⟨key, cycle, -⟩ := tracker.complete_frame completion report
      refine ⟨key.symm ▸ meets, fun job kept current => key.symm ▸ ?_, fun sent => key.symm ▸ ?_,
        fun bytes back => key.symm ▸ ?_⟩
      · exact answered job (List.mem_of_mem_eraseIdx kept) (cycle ▸ current)
      · unfold Tracker.complete at sent
        split at sent
        · rename_i accepted
          have written : report = .written := by cases report <;> simp_all [Report.phase]
          exact written ▸ answered (completion, report) among accepted.1.symm
        · exact taken sent
      · unfold Tracker.complete at back
        split at back
        · rename_i accepted
          have delivered : report = .delivered bytes := by
            cases report <;> simp_all [Report.response]
          exact delivered ▸ answered (completion, report) among accepted.1.symm
        · exact brought bytes back
  | setFaults faults =>
    exact ⟨still, fun job among current => stays _ (answered job among current),
      fun sent => stays _ (taken sent), fun bytes back => stays _ (brought bytes back)⟩
  | connect =>
    exact ⟨still, fun job among current => stays _ (answered job among current),
      fun sent => stays _ (taken sent), fun bytes back => stays _ (brought bytes back)⟩

/-! ## Calls -/

/-- The random of a call that asks for a pairing. -/
def requestRandom? : Access → Option SessionRandom
  | .write .pairing value => Frame.requestRandom? value
  | _ => none

/-- What a call leaves alone. -/
theorem onBulb_frame (access : Access) (bulb : Bulb) :
    (access.onBulb bulb).2.connected = bulb.connected ∧
      (access.onBulb bulb).2.faults = bulb.faults ∧
      (requestRandom? access = none → (access.onBulb bulb).2.key = bulb.key) := by
  cases access with
  | write characteristic value =>
    obtain ⟨connected, faults, key⟩ := bulb.write_frame characteristic value
    refine ⟨connected, faults, fun other => key ?_⟩
    rintro rfl
    exact other
  | read characteristic =>
    obtain ⟨connected, faults, key⟩ := bulb.read_frame characteristic
    exact ⟨connected, faults, fun _ => key⟩

/-- What the answer to a call makes true, for calls of a controller with some credentials. A call
that asks for a pairing is made without a key. The call leaves something true, and so does its
answer, if there is one; all of this lasts. -/
structure Exchange (credentials : Credentials) (access : Access) (terms after : Terms)
    (claim : Report → Terms) : Prop where
  before : Lasting terms
  behind : Lasting after
  claims : ∀ report, Lasting (claim report)
  keyless : ∀ key bulb, terms key bulb → requestRandom? access ≠ none → key = none
  answers : ∀ key (bulb : Bulb), bulb.faults.pairResponse = none → terms key bulb →
    (∀ random, requestRandom? access = some random → bulb.Discerns credentials random) →
      after key (access.onBulb bulb).2 ∧
        ∀ report, (access.onBulb bulb).1 = some report → claim report key (access.onBulb bulb).2

namespace Exchange

variable {credentials : Credentials} {access : Access}

/-- Once the bulb has taken a call, the step waits for its answer. -/
theorem accepted (exchange : Exchange credentials access terms after claim) {courier : Courier}
    {tracker : Tracker} {completion : Completion} (sound : Sound (courier, tracker))
    (fresh : Fresh terms (courier, tracker)) (current : tracker.cycle = completion.cycle)
    (discerns : ∀ random, requestRandom? access = some random →
      courier.bulb.Discerns credentials random) :
    Sound (courier.accept completion (access.onBulb courier.bulb), tracker) ∧
      Awaiting after claim (courier.accept completion (access.onBulb courier.bulb), tracker) := by
  obtain ⟨connected, faults, key⟩ := onBulb_frame access courier.bulb
  obtain ⟨left, claimed⟩ :=
    exchange.answers tracker.key courier.bulb sound.honest fresh.meets discerns
  have kinds (job : Completion × Report)
      (among : job ∈ (courier.accept completion (access.onBulb courier.bulb)).jobs) :
      job ∈ courier.jobs ∨
        (job.1 = completion ∧ (access.onBulb courier.bulb).1 = some job.2) := by
    refine (List.mem_append.mp among).imp_right fun last => ?_
    obtain ⟨report, answered, rfl⟩ := List.mem_map.mp last
    exact ⟨rfl, Option.mem_toList.mp answered⟩
  refine ⟨⟨?_, ?_, ?_⟩, ⟨left, ?_, ?_, ?_⟩⟩
  · intro installed held
    have other : requestRandom? access = none := by
      cases asks : requestRandom? access with
      | none => rfl
      | some random =>
        have empty : tracker.key = none := exchange.keyless _ _ fresh.meets (by simp [asks])
        simp [empty] at held
    obtain ⟨up, same⟩ := sound.agreement installed held
    exact ⟨connected.trans up, (key other).trans same⟩
  · exact (congrArg Faults.pairResponse faults).trans sound.honest
  · intro job among
    rcases kinds job among with earlier | ⟨own, -⟩
    · exact sound.past job earlier
    · exact Nat.le_of_eq ((congrArg Completion.cycle own).trans current.symm)
  · intro job among same
    rcases kinds job among with earlier | ⟨-, answered⟩
    · exact absurd same (Nat.ne_of_lt (fresh.past job earlier))
    · exact claimed job.2 answered
  · exact fun sent => absurd sent fresh.unsent
  · intro bytes back
    have empty : tracker.response = none := fresh.empty
    simp [empty] at back

/-- A step opens a fresh cycle and hands its completion over. -/
theorem opening {Value : Type} (exchange : Exchange credentials access terms after claim)
    {rest : Nat → Completion → Procedure Value} {post : Value → Scene → Prop}
    (continues : ∀ epoch completion, Upholds credentials
      (fun scene => Fresh terms scene ∧ scene.2.cycle = completion.cycle) (rest epoch completion)
      post) :
    Upholds credentials (Meets terms) (do
      Procedure.reset
      let epoch ← Procedure.lossCount
      let completion ← Procedure.queue
      rest epoch completion) post := by
  have steady : Steady (Fresh terms) := fun move scene fresh =>
    (Fresh.steady exchange.before scene.2.cycle move scene ⟨fresh, rfl⟩).1
  have reset : Upholds credentials (Meets terms) Procedure.reset fun _ => Fresh terms := by
    refine Upholds.change exchange.before.steady (fun tracker => ((), tracker.reset))
      (fun _ => rfl) (fun _ _ held => held) (fun _ => Nat.le_succ _) ?_
    intro courier tracker sound meets
    exact ⟨meets, fun job among => Nat.lt_succ_of_le (sound.past job among), nofun, rfl⟩
  have lossCount : Upholds credentials (Fresh terms) Procedure.lossCount fun _ => Fresh terms :=
    Upholds.observe steady (fun _ => rfl) fun _ now => now
  have queue : Upholds credentials (Fresh terms) Procedure.queue fun completion scene =>
      Fresh terms scene ∧ scene.2.cycle = completion.cycle := by
    refine Upholds.change steady Tracker.queue (fun _ => rfl) (fun _ _ held => held)
      (fun _ => Nat.le_refl _) ?_
    intro courier tracker _ fresh
    exact ⟨⟨fresh.meets, fresh.past, nofun, fresh.empty⟩, rfl⟩
  exact reset.bind fun _ => lossCount.bind fun epoch => queue.bind fun completion =>
    continues epoch completion

/-- The wait of a step. If it ends well after a write, the claim of the write is true. -/
theorem settle (exchange : Exchange credentials access terms after claim) (bound : Nat)
    (step : String) (epoch : Nat) (good : Phase) :
    Upholds credentials (Awaiting after claim) (Step.settle bound step epoch [good, .fail])
      fun result scene => Awaiting after claim scene ∧
        (result = .ok () → good = .sent → Meets (claim .written) scene) := by
  have steady := Awaiting.steady exchange.behind exchange.claims
  have wait : Upholds credentials (Awaiting after claim) (Procedure.wait bound [good, .fail])
      fun verdict scene => Awaiting after claim scene ∧
        ∀ phase, verdict = .reached phase →
          phase ∈ [good, .fail] ∧ (phase = .sent → Meets (claim .written) scene) := by
    refine Upholds.wait steady fun scene now => ⟨now, fun phase reached => ?_⟩
    unfold Tracker.verdict? at reached
    split at reached
    · cases reached
    · split at reached
      · rename_i among
        cases reached
        exact ⟨among, now.taken⟩
      · cases reached
  refine wait.bind fun verdict => ?_
  have failed (failure : Failure) : Upholds credentials (Awaiting after claim)
      (pure (.error failure) : Procedure (Except Failure Unit)) fun result scene =>
        Awaiting after claim scene ∧
          (result = .ok () → good = .sent → Meets (claim .written) scene) :=
    Upholds.done fun _ now => ⟨now, nofun⟩
  have ended (phase : Phase) (unfailed : phase ≠ .fail) : Upholds credentials
      (fun scene => Awaiting after claim scene ∧ ∀ other, Verdict.reached phase = .reached other →
        other ∈ [good, .fail] ∧ (other = .sent → Meets (claim .written) scene))
      (pure (.ok ()) : Procedure (Except Failure Unit)) fun result scene =>
        Awaiting after claim scene ∧
          (result = .ok () → good = .sent → Meets (claim .written) scene) := by
    refine Upholds.done fun scene now => ⟨now.1, fun _ sent => ?_⟩
    obtain ⟨among, claimed⟩ := now.2 phase rfl
    have reached : phase = good := by simpa [unfailed] using among
    exact claimed (reached.trans sent)
  cases verdict with
  | reached phase =>
    cases phase with
    | fail =>
      have lossCount : Upholds credentials (Awaiting after claim) Procedure.lossCount
          fun _ => Awaiting after claim :=
        Upholds.observe steady (fun _ => rfl) fun _ now => now
      have takeError : Upholds credentials (Awaiting after claim) Procedure.takeError
          fun _ => Awaiting after claim :=
        Upholds.change steady Tracker.takeError (fun _ => rfl) (fun _ _ held => held)
          (fun _ => Nat.le_refl _)
          fun _ _ _ now => ⟨now.meets, now.answered, now.taken, now.brought⟩
      refine Upholds.weaken ?_ (fun _ now => now.1) fun _ _ given => given
      refine lossCount.bind fun current => takeError.bind fun error => ?_
      split
      · exact failed _
      · exact failed _
    | new => exact ended .new (by decide)
    | queued => exact ended .queued (by decide)
    | sent => exact ended .sent (by decide)
    | success => exact ended .success (by decide)
  | timedOut =>
    have setPhase : Upholds credentials (Awaiting after claim) (Procedure.setPhase .fail)
        fun _ => Awaiting after claim :=
      Upholds.change steady (fun tracker => ((), tracker.setPhase .fail)) (fun _ => rfl)
        (fun _ _ held => held) (fun _ => Nat.le_refl _)
        fun _ _ _ now => ⟨now.meets, now.answered, nofun, now.brought⟩
    have count : Upholds credentials (Awaiting after claim)
        (Procedure.count (.stepTimeout step)) fun _ => Awaiting after claim :=
      Upholds.observe steady (fun _ => rfl) fun _ now => now
    refine Upholds.weaken ?_ (fun _ now => now.1) fun _ _ given => given
    exact setPhase.bind fun _ => count.bind fun _ => failed _
  | cancelled =>
    exact Upholds.weaken (failed .cancelled) (fun _ now => now.1) fun _ _ given => given

/-- Taking the answer and letting the call return. -/
theorem call (exchange : Exchange credentials access terms after claim) (completion : Completion)
    (take : Procedure Unit) {action : Action}
    (takes : take = .act action fun _ => Procedure.of .callReturn)
    (performs : ∀ world : World Courier, (action.perform Courier.transport world).2.scene =
      (world.transport.accept completion (access.onBulb world.transport.bulb), world.tracker))
    (discerned : ∀ bulb, action.Discerned credentials bulb →
      ∀ random, requestRandom? access = some random → bulb.Discerns credentials random) :
    Upholds credentials (fun scene => Fresh terms scene ∧ scene.2.cycle = completion.cycle) take
      fun _ => Awaiting after claim := by
  have steady : Steady fun scene => Fresh terms scene ∧ scene.2.cycle = completion.cycle :=
    Fresh.steady exchange.before completion.cycle
  have callReturn : Upholds credentials (Awaiting after claim) (Procedure.of .callReturn)
      fun _ => Awaiting after claim :=
    Upholds.observe (Awaiting.steady exchange.behind exchange.claims) (fun _ => rfl)
      fun _ now => now
  rw [takes]
  intro world sound now later precedes asked
  obtain ⟨fresh, current⟩ := precedes.steady steady now
  obtain ⟨kept, awaiting⟩ := exchange.accepted (precedes.steady Sound.steady sound) fresh current
    (discerned _ asked)
  rw [performs]
  exact ⟨kept, callReturn _ (performs later ▸ kept) (performs later ▸ awaiting)⟩

/-- A step that writes leaves what holds behind its call, and with success the claim of a write. -/
theorem write {characteristic : Characteristic} {value : Bytes}
    (exchange : Exchange credentials (.write characteristic value) terms after claim)
    (bound : Nat) (step : String) :
    Upholds credentials (Meets terms) (Step.write bound step characteristic value).run
      fun result => Meets fun key bulb =>
        after key bulb ∧ (result = .ok () → claim .written key bulb) := by
  refine exchange.opening fun epoch completion => ?_
  have called := exchange.call completion (Procedure.write characteristic value completion)
    rfl (fun _ => rfl) (by
      intro bulb asked random asks
      cases characteristic with
      | pairing => exact asked random asks
      | status => cases asks
      | command => cases asks)
  refine called.bind fun _ => (exchange.settle bound step epoch .sent).bind fun result => ?_
  have lasting := exchange.behind.and ((exchange.claims .written).under (result = .ok ()))
  have learned : Upholds credentials (Meets fun key bulb =>
      after key bulb ∧ (result = .ok () → claim .written key bulb)) Procedure.reset fun _ => Meets
        fun key bulb => after key bulb ∧ (result = .ok () → claim .written key bulb) :=
    Upholds.change lasting.steady (fun tracker => ((), tracker.reset)) (fun _ => rfl)
      (fun _ _ held => held) (fun _ => Nat.le_succ _) fun _ _ _ now => now
  refine Upholds.weaken (learned.bind fun _ => Upholds.done fun _ now => now) ?_
    fun _ _ given => given
  exact fun scene now => ⟨now.1.meets, fun succeeded => now.2 succeeded rfl⟩

/-- A step that reads leaves what holds behind its call, and the claim of the bytes it gives. -/
theorem read {characteristic : Characteristic}
    (exchange : Exchange credentials (.read characteristic) terms after claim)
    (bound : Nat) (step : String) :
    Upholds credentials (Meets terms) (Step.read bound step characteristic).run
      fun result => Meets fun key bulb =>
        after key bulb ∧ ∀ bytes, result = .ok bytes → claim (.delivered bytes) key bulb := by
  refine exchange.opening fun epoch completion => ?_
  have called := exchange.call completion (Procedure.read characteristic completion)
    rfl (fun _ => rfl) (fun _ _ _ asks => by cases asks)
  have steady := Awaiting.steady exchange.behind exchange.claims
  refine called.bind fun _ => (exchange.settle bound step epoch .success).bind fun settled => ?_
  have takeResponse : Upholds credentials (Awaiting after claim) Procedure.takeResponse
      fun response => Meets fun key bulb =>
        after key bulb ∧ ∀ bytes, response = some bytes → claim (.delivered bytes) key bulb :=
    Upholds.change steady Tracker.takeResponse (fun _ => rfl) (fun _ _ held => held)
      (fun _ => Nat.le_refl _) fun _ _ _ now => ⟨now.meets, now.brought⟩
  refine Upholds.weaken ?_ (fun _ now => now.1) fun _ _ given => given
  refine takeResponse.bind fun response => ?_
  have lasting : Lasting fun key bulb => after key bulb ∧
      ∀ bytes, response = some bytes → claim (.delivered bytes) key bulb := by
    refine exchange.behind.and ⟨?_, ?_, ?_⟩
    · exact fun key bulb now bytes back => (exchange.claims _).dropped key bulb (now bytes back)
    · exact fun key bulb now bytes back => (exchange.claims _).connected key bulb (now bytes back)
    · exact fun key bulb faults now bytes back =>
        (exchange.claims _).faulty key bulb faults (now bytes back)
  have reset : Upholds credentials (Meets fun key bulb => after key bulb ∧
      ∀ bytes, response = some bytes → claim (.delivered bytes) key bulb) Procedure.reset
        fun _ => Meets fun key bulb => after key bulb ∧
          ∀ bytes, response = some bytes → claim (.delivered bytes) key bulb :=
    Upholds.change lasting.steady (fun tracker => ((), tracker.reset)) (fun _ => rfl)
      (fun _ _ held => held) (fun _ => Nat.le_succ _) fun _ _ _ now => now
  refine reset.bind fun _ => ?_
  cases settled with
  | error failure => exact Upholds.done fun _ now => ⟨now.1, nofun⟩
  | ok _ =>
    cases response with
    | none => exact Upholds.done fun _ now => ⟨now.1, nofun⟩
    | some bytes =>
      refine Upholds.done fun _ now => ⟨now.1, ?_⟩
      rintro _ ⟨⟩
      exact now.2 bytes rfl

end Exchange

end MeshLight.Session
