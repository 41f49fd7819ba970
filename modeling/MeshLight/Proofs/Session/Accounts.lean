import MeshLight.Proofs.Session.Step
import MeshLight.Proofs.Session.Telling
import MeshLight.Session.Worker

/-!
# What operations tell

Each operation tells one thing for each result, link losses aside. A pairing reports its beginning
and its end and counts both; a command reports and counts that it was sent or that it failed; a
status is reported and counted if it was read, and a move is reported if it was made. An operation
that ends because a step ran into its bound counts that as well, and none counts it otherwise.
-/

namespace MeshLight.Session

open Report (Event Count)

/-! ## What is told for a result -/

/-- How a pairing with this result is reported. -/
def pairingOutcome {Value : Type} : Except Failure Value → Outcome
  | .ok _ => .established
  | .error failure => failure.outcome

/-- How a pairing with this result is counted. -/
def pairingCount {Value : Type} : Except Failure Value → Count
  | .ok _ => .pairingEstablished
  | .error failure => .pairingFailure failure.reason

/-- How a command with this result is reported. -/
def commandEvent {Value : Type} (command : Light.Command) : Except Failure Value → Event
  | .ok _ => .commandSent command.opcode
  | .error failure => .commandFailed command.opcode failure.reason

/-- How a command with this result is counted. -/
def commandCount {Value : Type} (command : Light.Command) : Except Failure Value → Count
  | .ok _ => .commandSent command.opcode
  | .error failure => .commandFailed failure.reason

/-- What a request reports that ends with a result. -/
def Request.reports (result : Result) : Request → List Event
  | .pair => [.pairingStarted, .pairingFinished (pairingOutcome result)]
  | .light command => [commandEvent command result]
  | .status =>
    match result with
    | .ok (.notification content) => [.statusReceived content.source content.payload]
    | _ => []
  | .migrate credentials _ =>
    match result with
    | .ok _ => [.meshUpdated credentials.name]
    | .error _ => []

/-- What a request counts that ends with a result. -/
def Request.counts (result : Result) : Request → List Count
  | .pair => .pairingAttempt :: (Step.counted result ++ [pairingCount result])
  | .light command => Step.counted result ++ [commandCount command result]
  | .status =>
    match result with
    | .ok (.notification _) => [.statusRead]
    | _ => Step.counted result
  | .migrate _ _ => Step.counted result

/-- What a message may tell that ends with a result. A ready link leads to a pairing or, if there is
a key, to nothing. -/
def Message.Told (result : Result) (events : List Event) (counts : List Count) : Message → Prop
  | .request _ content => events = content.reports result ∧ counts = content.counts result
  | .ready =>
    events = Request.pair.reports result ∧ counts = Request.pair.counts result ∨
      result = .ok .done ∧ events = [] ∧ counts = []
  | .shutdown => False

section Map

variable {First Second : Type} (change : First → Second) (result : Except Failure First)

/-- What a step would have given does not matter to what its failure counts. -/
theorem counted_error (failure : Failure) :
    Step.counted (.error failure : Except Failure First) =
      Step.counted (.error failure : Except Failure Second) := by
  cases failure <;> rfl

@[simp] theorem counted_map : Step.counted (result.map change) = Step.counted result := by
  cases result with
  | ok value => rfl
  | error failure => exact counted_error failure

@[simp] theorem pairingOutcome_map :
    pairingOutcome (result.map change) = pairingOutcome result := by
  cases result <;> rfl

@[simp] theorem pairingCount_map : pairingCount (result.map change) = pairingCount result := by
  cases result <;> rfl

@[simp] theorem commandEvent_map (command : Light.Command) :
    commandEvent command (result.map change) = commandEvent command result := by
  cases result <;> rfl

@[simp] theorem commandCount_map (command : Light.Command) :
    commandCount command (result.map change) = commandCount command result := by
  cases result <;> rfl

end Map

/-! ## Attempts -/

/-- The attempt leaves the session where it stands and reports nothing; it counts a step that ran
into its bound if it fails for that, and nothing else. -/
def Counts {Value : Type} (attempt : Attempt Value) : Prop :=
  ∀ standing telling, attempt.run.Tells
    (fun result later told => later = standing ∧ told = telling.also [] (Step.counted result))
    standing telling

namespace Counts

open Procedure

variable {First Second : Type}

/-- A success. -/
theorem succeed (value : First) : Counts (pure value : Attempt First) :=
  fun _ telling => ⟨rfl, telling.also_nothing.symm⟩

/-- A failure that is no bound. -/
theorem fail {failure : Failure}
    (other : Step.counted (.error failure : Except Failure First) = []) :
    Counts (throw failure : Attempt First) :=
  fun _ telling => ⟨rfl, by rw [other, telling.also_nothing]⟩

/-- Attempts one after the other. -/
theorem bind {first : Attempt First} {second : First → Attempt Second} (begins : Counts first)
    (continues : ∀ value, Counts (second value)) : Counts (first >>= second) := by
  intro standing telling
  refine Tells.bind (begins standing telling) fun result later told ended => ?_
  obtain ⟨rfl, rfl⟩ := ended
  cases result with
  | error failure => exact ⟨rfl, congrArg _ (counted_error failure)⟩
  | ok value =>
    have nothing : Step.counted (.ok value : Except Failure First) = [] := rfl
    rw [nothing, telling.also_nothing]
    exact continues value later telling

/-- The wait of a step. -/
theorem settle (bound : Nat) (step : String) (epoch : Nat) (targets : List Link.Phase) :
    Counts (ExceptT.mk (Step.settle bound step epoch targets)) := by
  intro standing telling verdict
  cases verdict with
  | reached phase =>
    cases phase with
    | fail =>
      refine Tells.quiet rfl rfl rfl fun current => Tells.quiet rfl rfl rfl fun error => ?_
      split
      · exact ⟨rfl, telling.also_nothing.symm⟩
      · exact ⟨rfl, telling.also_nothing.symm⟩
    | new => exact ⟨rfl, telling.also_nothing.symm⟩
    | queued => exact ⟨rfl, telling.also_nothing.symm⟩
    | sent => exact ⟨rfl, telling.also_nothing.symm⟩
    | success => exact ⟨rfl, telling.also_nothing.symm⟩
  | timedOut =>
    exact Tells.quiet rfl rfl rfl fun _ => Tells.neutral rfl fun _ => ⟨rfl, rfl⟩
  | cancelled => exact ⟨rfl, telling.also_nothing.symm⟩

/-- A step that writes. -/
theorem write (bound : Nat) (step : String) (characteristic : Link.Characteristic)
    (value : Bytes) : Counts (Step.write bound step characteristic value) := by
  intro standing telling
  refine Tells.quiet rfl rfl rfl fun _ => Tells.quiet rfl rfl rfl fun epoch =>
    Tells.quiet rfl rfl rfl fun completion => Tells.quiet rfl rfl rfl fun _ =>
      Tells.quiet rfl rfl rfl fun _ =>
        (settle bound step epoch _ standing telling).bind fun result later told ended => ?_
  exact Tells.quiet rfl rfl rfl fun _ => ended

/-- A step that reads. -/
theorem read (bound : Nat) (step : String) (characteristic : Link.Characteristic) :
    Counts (Step.read bound step characteristic) := by
  intro standing telling
  refine Tells.quiet rfl rfl rfl fun _ => Tells.quiet rfl rfl rfl fun epoch =>
    Tells.quiet rfl rfl rfl fun completion => Tells.quiet rfl rfl rfl fun _ =>
      Tells.quiet rfl rfl rfl fun _ =>
        (settle bound step epoch _ standing telling).bind fun result later told ended => ?_
  refine Tells.quiet rfl rfl rfl fun response => Tells.quiet rfl rfl rfl fun _ => ?_
  obtain ⟨rfl, rfl⟩ := ended
  cases result with
  | error failure => exact ⟨rfl, congrArg _ (counted_error failure)⟩
  | ok _ =>
    cases response with
    | none => exact ⟨rfl, rfl⟩
    | some bytes => exact ⟨rfl, rfl⟩

end Counts

namespace Controller

open Procedure

variable (controller : Controller)

/-! ## Operations that tell nothing about the session -/

/-- Asking for the key. -/
theorem requireKey_counts : Counts controller.requireKey := by
  refine fun standing telling => Tells.quiet rfl rfl rfl fun held => ?_
  cases held with
  | none => exact ⟨rfl, telling.also_nothing.symm⟩
  | some key => exact ⟨rfl, telling.also_nothing.symm⟩

/-- The conversation of a pairing. -/
theorem handshake_counts (random : SessionRandom) : Counts (controller.handshake random) := by
  refine (Counts.write _ _ _ _).bind fun _ => (Counts.write _ _ _ _).bind fun _ =>
    (Counts.read _ _ _).bind fun response => ?_
  split
  · exact .fail rfl
  · exact .succeed _
  · exact .fail rfl
  · exact .fail rfl

/-- Reading a notification. -/
theorem fetchStatus_counts : Counts controller.fetchStatus := by
  refine controller.requireKey_counts.bind fun key => (Counts.read _ _ _).bind fun frame => ?_
  split
  · exact .fail rfl
  · exact .succeed _

/-- The frames of a move and the reply. -/
theorem announce_counts (frames : List Bytes) : Counts (controller.announce frames) := by
  have written : Counts (controller.writeAll frames) := by
    induction frames with
    | nil => exact .succeed ()
    | cons frame frames inductionHypothesis =>
      exact (Counts.write _ _ _ _).bind fun _ => inductionHypothesis
  refine written.bind fun _ => (Counts.read _ _ _).bind fun reply => ?_
  split
  · exact .fail rfl
  · split
    · exact .succeed ()
    · exact .fail rfl

/-! ## Operations that drop and install keys -/

/-- Dropping the key and the link: a key that was there is counted and reported. -/
theorem disconnect_tells {standing : Standing} (rests : standing.Rests) (telling : Telling) :
    disconnect.Tells (fun _ later told => later.Rests ∧ told = telling) standing telling := by
  refine Tells.act fun had => ?_
  cases had with
  | false =>
    exact ⟨.keyless, .missing rests, Tells.quiet rfl rfl rfl fun _ =>
      ⟨True.intro, telling.also_nothing⟩⟩
  | true =>
    refine ⟨.owing, .dropped rests, Tells.quiet rfl rfl rfl fun _ => Tells.act fun _ =>
      ⟨.counted, .counted, fun _ => ⟨.keyless, .reported, True.intro, ?_⟩⟩⟩
    simp [Action.reports, Action.counts]

/-- The policy for failures tells nothing else. -/
theorem abort_tells (failure : Failure) {standing : Standing} (rests : standing.Rests)
    (telling : Telling) :
    (abort failure).Tells (fun _ later told => later.Rests ∧ told = telling) standing telling := by
  refine Tells.quiet rfl rfl rfl fun torn => ?_
  cases torn with
  | true => exact ⟨rests, rfl⟩
  | false =>
    refine Tells.quiet rfl rfl rfl fun _ => ?_
    have anew {later : Standing} (still : later.Rests) :
        Procedure.reset.Tells (fun _ later told => later.Rests ∧ told = telling) later telling :=
      Tells.quiet rfl rfl rfl fun _ => ⟨still, rfl⟩
    cases failure.requiresDisconnect with
    | false => exact anew rests
    | true =>
      refine (disconnect_tells rests telling).bind fun _ later told ended => ?_
      obtain ⟨still, rfl⟩ := ended
      exact anew still

/-- An installed key is to be reported. -/
theorem install_tells (key : SessionKey) (epoch : Nat) (telling : Telling) :
    (install key epoch).run.Tells
      (fun result later told =>
        later = (match result with | .ok _ => .fresh | .error _ => .keyless) ∧
          told = telling.also [] (Step.counted result))
      .keyless telling := by
  refine Tells.act fun installed => ?_
  cases installed with
  | true => exact ⟨.fresh, .installed, rfl, rfl⟩
  | false =>
    refine ⟨.keyless, .refused, Tells.quiet rfl rfl rfl fun torn => ?_⟩
    cases torn with
    | true => exact ⟨rfl, rfl⟩
    | false => exact ⟨rfl, rfl⟩

/-- The end of a pairing is counted and reported. -/
theorem concludePairing_tells (result : Except Failure Unit) (telling : Telling) :
    (concludePairing result).Tells
      (fun _ later told => later.Rests ∧
        told = telling.also [.pairingFinished (pairingOutcome result)] [pairingCount result])
      (match result with | .ok _ => .fresh | .error _ => .keyless) telling := by
  cases result with
  | ok _ =>
    refine Tells.neutral rfl fun _ _ => ⟨.settled, .established, True.intro, ?_⟩
    simp [Action.reports, Action.counts, pairingOutcome, pairingCount]
  | error failure =>
    have other : failure.outcome ≠ .established := by cases failure <;> simp [Failure.outcome]
    have keyless : Standing.keyless.Rests := True.intro
    refine Tells.neutral rfl fun _ => Tells.act fun _ => ⟨.keyless, .failed other, ?_⟩
    refine (abort_tells failure keyless _).weaken fun _ later told ended => ?_
    obtain ⟨still, rfl⟩ := ended
    exact ⟨still, by simp [Action.reports, Action.counts, pairingOutcome, pairingCount]⟩

/-- A pairing. The handshake leaves the session where it is, and the installation says how the
pairing ends. -/
theorem pair_tells {standing : Standing} (rests : standing.Rests) (telling : Telling) :
    controller.pair.Tells
      (fun ended later told => later.Rests ∧
        told = telling.also [.pairingStarted, .pairingFinished (pairingOutcome ended.1)]
          (.pairingAttempt :: (Step.counted ended.1 ++ [pairingCount ended.1])))
      standing telling := by
  refine Tells.neutral rfl fun _ => Tells.silent rfl rfl fun had => ?_
  obtain ⟨behind, leads, lost⟩ : ∃ behind, Leads standing .clearKey had behind ∧
      (behind = .keyless ∨ behind = .owing) := by
    cases had with
    | true => exact ⟨.owing, .dropped rests, .inr rfl⟩
    | false => exact ⟨.keyless, .missing rests, .inl rfl⟩
  refine ⟨behind, leads, Tells.quiet rfl rfl rfl fun epoch => Tells.act fun _ =>
    ⟨.keyless, .begun lost, ?_⟩⟩
  have keyed : (ExceptT.run do
        let key ← controller.drawRandom.2.handshake controller.drawRandom.1
        install key epoch).Tells
      (fun result later told =>
        later = (match result with | .ok _ => .fresh | .error _ => .keyless) ∧
          told = telling.also [.pairingStarted] (.pairingAttempt :: Step.counted result))
      .keyless (telling.also [.pairingStarted] [.pairingAttempt]) := by
    refine Tells.bind (controller.drawRandom.2.handshake_counts _ _ _) ?_
    intro result later told ended
    obtain ⟨rfl, rfl⟩ := ended
    cases result with
    | error failure =>
      exact ⟨rfl, by rw [Telling.also_also, counted_error failure]; rfl⟩
    | ok key =>
      refine (install_tells key epoch _).weaken fun result later told ended => ?_
      exact ⟨ended.1, ended.2.trans (by simp [Step.counted])⟩
  rw [Telling.also_also]
  refine keyed.bind fun result later told ended => ?_
  obtain ⟨rfl, rfl⟩ := ended
  refine (concludePairing_tells result _).bind fun _ later told ended => ?_
  exact ⟨ended.1, ended.2.trans (by simp)⟩

/-! ## Commands, statuses and moves -/

/-- A command on its way to the transport. -/
theorem deliver_tells (meshId : UInt16) (command : Light.Command) (standing : Standing)
    (telling : Telling) :
    (controller.deliver meshId command).Tells
      (fun ended later told => later = standing ∧ told = telling.also [] (Step.counted ended.1))
      standing telling := by
  refine (controller.requireKey_counts standing telling).bind fun required later told asked => ?_
  obtain ⟨rfl, rfl⟩ := asked
  cases required with
  | error failure => exact ⟨rfl, congrArg _ (counted_error failure)⟩
  | ok key =>
    have nothing : Step.counted (.ok key : Except Failure SessionKey) = [] := rfl
    rw [nothing, telling.also_nothing]
    simp only
    split
    · exact ⟨rfl, telling.also_nothing.symm⟩
    · exact Tells.bind (Counts.write _ _ _ _ _ _) fun result later told ended => ended

/-- A command. -/
theorem send_tells (meshId : UInt16) (command : Light.Command) {standing : Standing}
    (rests : standing.Rests) (telling : Telling) :
    (controller.send meshId command).Tells
      (fun ended later told => later.Rests ∧
        told = telling.also [commandEvent command ended.1]
          (Step.counted ended.1 ++ [commandCount command ended.1]))
      standing telling := by
  refine (controller.deliver_tells meshId command standing telling).bind
    fun ended later told delivered => ?_
  obtain ⟨result, drawn⟩ := ended
  obtain ⟨rfl, rfl⟩ := delivered
  cases result with
  | ok _ =>
    refine Tells.neutral rfl fun _ => Tells.neutral rfl fun _ => ⟨rests, ?_⟩
    simp [Action.reports, Action.counts, commandEvent, commandCount]
  | error failure =>
    refine Tells.neutral rfl fun _ => Tells.neutral rfl fun _ =>
      (abort_tells failure rests _).bind fun _ later told ended => ?_
    exact ⟨ended.1, ended.2.trans
      (by simp [Action.reports, Action.counts, commandEvent, commandCount])⟩

/-- Reading the status. -/
theorem readStatus_tells {standing : Standing} (rests : standing.Rests) (telling : Telling) :
    controller.readStatus.Tells
      (fun result later told => later.Rests ∧
        told = telling.also (Request.status.reports (result.map .notification))
          (Request.status.counts (result.map .notification)))
      standing telling := by
  refine Tells.bind (controller.fetchStatus_counts standing telling)
    fun result later told read => ?_
  obtain ⟨rfl, rfl⟩ := read
  cases result with
  | ok notification =>
    refine Tells.neutral rfl fun _ => Tells.neutral rfl fun _ => ⟨rests, ?_⟩
    simp [Action.reports, Action.counts, Step.counted, Request.reports, Request.counts, Except.map]
  | error failure =>
    refine (abort_tells failure rests _).bind fun _ later told ended => ?_
    obtain ⟨still, rfl⟩ := ended
    exact ⟨still, congrArg _ (counted_error failure)⟩

/-- A move. -/
theorem migrate_tells (credentials : Credentials) (longTermKey : Bytes) {standing : Standing}
    (rests : standing.Rests) (telling : Telling) :
    (controller.migrate credentials longTermKey).Tells
      (fun ended later told => later.Rests ∧
        told = telling.also
          (match ended.1 with | .ok _ => [.meshUpdated credentials.name] | .error _ => [])
          (Step.counted ended.1))
      standing telling := by
  refine Tells.bind (controller.requireKey_counts standing telling)
    fun required later told asked => ?_
  obtain ⟨rfl, rfl⟩ := asked
  cases required with
  | error failure => exact ⟨rests, congrArg _ (counted_error failure)⟩
  | ok key =>
    have nothing : Step.counted (.ok key : Except Failure SessionKey) = [] := rfl
    rw [nothing, telling.also_nothing]
    simp only
    split
    · exact ⟨rests, telling.also_nothing.symm⟩
    · rename_i frames _
      refine Tells.bind (controller.announce_counts frames later telling)
        fun result later told announced => ?_
      obtain ⟨rfl, rfl⟩ := announced
      cases result with
      | ok _ =>
        exact Tells.neutral rfl fun _ => ⟨rests, by simp [Action.reports, Action.counts]⟩
      | error failure =>
        exact (abort_tells failure rests _).bind fun _ later told ended => ended

/-! ## Requests and ready links -/

/-- A request. -/
theorem perform_tells (meshId : UInt16) (request : Request) {standing : Standing}
    (rests : standing.Rests) (telling : Telling) :
    (controller.perform meshId request).Tells
      (fun ended later told => later.Rests ∧
        told = telling.also (request.reports ended.1) (request.counts ended.1))
      standing telling := by
  cases request with
  | pair =>
    refine (controller.pair_tells rests telling).bind fun ended later told paired => ?_
    exact ⟨paired.1, by simpa [Request.reports, Request.counts] using paired.2⟩
  | light command =>
    refine (controller.send_tells meshId command rests telling).bind
      fun ended later told sent => ?_
    exact ⟨sent.1, by simpa [Request.reports, Request.counts] using sent.2⟩
  | status => exact (controller.readStatus_tells rests telling).bind fun _ _ _ read => read
  | migrate credentials longTermKey =>
    refine (controller.migrate_tells credentials longTermKey rests telling).bind
      fun ended later told moved => ?_
    obtain ⟨result, changed⟩ := ended
    refine ⟨moved.1, moved.2.trans ?_⟩
    cases result with
    | ok _ => rfl
    | error failure => exact congrArg _ (counted_error failure)

/-- A ready link. -/
theorem greet_tells {standing : Standing} (rests : standing.Rests) (telling : Telling) :
    controller.greet.Tells
      (fun ended later told => later.Rests ∧ ∃ events counts,
        Message.ready.Told ended.1 events counts ∧ told = telling.also events counts)
      standing telling := by
  refine Tells.quiet rfl rfl rfl fun held => ?_
  cases held with
  | some key => exact ⟨rests, [], [], .inr ⟨rfl, rfl, rfl⟩, telling.also_nothing.symm⟩
  | none =>
    refine (controller.pair_tells rests telling).bind fun ended later told paired => ?_
    exact ⟨paired.1, _, _, .inl ⟨rfl, rfl⟩, by
      simpa [Request.reports, Request.counts] using paired.2⟩

end Controller

end MeshLight.Session
