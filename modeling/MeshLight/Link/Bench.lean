import MeshLight.Bulb.Link
import MeshLight.Frame.Tampering

/-!
# The test bench

A transport that answers from two scripts, one for writes and one for reads, and writes down every
call. A scripted reply may let something happen to the tracker before and after it, complete an
operation in the wrong way, or keep the completion for later. When a script is used up, a bulb
behind the bench answers if there is one; otherwise writes succeed and reads fail.

The answer is found when a call is taken and given when it returns. Only the bulb takes its time
over that.
-/

namespace MeshLight.Link

/-- What happens to the tracker beside an operation. -/
inductive Effect where
  | linkLost
  | cancel
  | setPhase (phase : Phase)
  deriving Repr, DecidableEq

/-- The tracker after an effect. -/
def Effect.apply (effect : Effect) (tracker : Tracker) : Tracker :=
  match effect with
  | .linkLost => tracker.linkLost.2
  | .cancel => tracker.cancel
  | .setPhase phase => tracker.setPhase phase

/-- How a scripted call is answered. It succeeds without bytes or with some, or it fails. Under
silence the completion is kept. A notification is made under the tracker's key, and the last case
leaves the answer to the bulb behind the bench. -/
inductive Answer where
  | success
  | bytes (content : Bytes)
  | failure (reason : String)
  | silence
  | notification (sequence : Frame.Sequence) (source : UInt16) (payload : Bytes)
      (tampering : Frame.Tampering)
  | bulb
  deriving Repr, DecidableEq

/-- A scripted reply, with what happens to the tracker before and after the answer. It is reported
as the call was made, a write or a read, unless it is given which. -/
structure Reply where
  before : Option Effect := none
  answer : Answer
  asRead : Option Bool := none
  after : Option Effect := none
  deriving Repr, DecidableEq

/-- What a call asks for. -/
inductive Access where
  | write (characteristic : Characteristic) (value : Bytes)
  | read (characteristic : Characteristic)
  deriving Repr, DecidableEq

namespace Access

/-- Whether a call asks to read. -/
def isRead : Access → Bool
  | .write .. => false
  | .read .. => true

/-- Lets a bulb do what a call asks for. Without a report the bulb dropped it. -/
def onBulb (access : Access) (bulb : Bulb) : Option Report × Bulb :=
  match access with
  | .write characteristic value => bulb.write characteristic value
  | .read characteristic => bulb.read characteristic

end Access

/-- What became of a call: its completion was kept, or it was completed; in that case, whether this
was accepted and the bytes that it brought. -/
inductive Fate where
  | kept
  | completed (applied : Bool) (brought : Option Bytes)
  deriving Repr, DecidableEq

/-- A call as it is written down. -/
inductive Call where
  | access (access : Access) (fate : Fate)
  | disconnect
  deriving Repr, DecidableEq

/-- What is still to happen when a call returns. The outcome is what to report and the bytes to
write down, and is nothing if the completion is to be kept. The call keeps its caller for the
latency, in milliseconds. -/
structure Delivery where
  access : Access
  completion : Completion
  outcome : Option (Report × Option Bytes)
  after : Option Effect
  latency : Nat
  deriving Repr, DecidableEq

/-- A transport with scripts. Notifications are made under its address; the scripted replies to
writes and to reads are used up one by one. Of the completions held, one that was released is
`none`. The log has the oldest call first, the latency is how long the bulb takes over an answer, in
milliseconds, and a call that was taken and has not returned is due. -/
structure Bench where
  address : Address
  writes : List Reply := []
  reads : List Reply := []
  held : List (Option Completion) := []
  log : List Call := []
  bulb : Option Bulb := none
  latency : Nat := 0
  due : Option Delivery := none

namespace Bench

/-- A success or a failure, reported as a read or as a write. -/
def report (asRead : Bool) (outcome : Except String Bytes) : Report :=
  match asRead, outcome with
  | false, .ok _ => .written
  | false, .error reason => .writeFailed reason
  | true, .ok bytes => .delivered bytes
  | true, .error reason => .readFailed reason

/-- The outcome behind a report. -/
def outcomeOf : Report → Except String Bytes × Option Bytes
  | .written => (.ok [], none)
  | .writeFailed reason => (.error reason, none)
  | .delivered bytes => (.ok bytes, some bytes)
  | .readFailed reason => (.error reason, none)

/-- The notification that a reply brings, empty if it cannot be made. -/
def notificationBytes (address : Address) (tracker : Tracker) (sequence : Frame.Sequence)
    (source : UInt16) (payload : Bytes) (tampering : Frame.Tampering) : Bytes :=
  let key := tracker.key.getD ⟨Vector.replicate 16 0⟩
  tampering.apply
    ((Frame.encodeNotification key address sequence source payload).toOption.getD [])

/-- The outcome of an answer and the bytes written down with it; nothing if the completion is kept.
The bulb is asked only if the answer says so. -/
def resolve (access : Access) (answer : Answer) (tracker : Tracker) (bench : Bench) :
    Option (Except String Bytes × Option Bytes) × Bench :=
  match answer with
  | .success => (some (.ok [], none), bench)
  | .bytes content => (some (.ok content, some content), bench)
  | .failure reason => (some (.error reason, none), bench)
  | .silence => (none, bench)
  | .notification sequence source payload tampering =>
    let bytes := notificationBytes bench.address tracker sequence source payload tampering
    (some (.ok bytes, some bytes), bench)
  | .bulb =>
    match bench.bulb with
    | none => (none, bench)
    | some bulb =>
      let (report, changed) := access.onBulb bulb
      (report.map outcomeOf, { bench with bulb := some changed })

/-- The reply to the next write, and the bench without it. -/
def nextWrite (bench : Bench) : Reply × Bench :=
  match bench.writes with
  | reply :: writes => (reply, { bench with writes })
  | [] => ({ answer := if bench.bulb.isSome then .bulb else .success }, bench)

/-- The reply to the next read, and the bench without it. -/
def nextRead (bench : Bench) : Reply × Bench :=
  match bench.reads with
  | reply :: reads => (reply, { bench with reads })
  | [] => ({ answer := if bench.bulb.isSome then .bulb else .failure "nothing scripted" }, bench)

/-- The reply to the next call, and the bench without it. -/
def next (access : Access) (bench : Bench) : Reply × Bench :=
  match access with
  | .write .. => bench.nextWrite
  | .read .. => bench.nextRead

/-- Takes a call: what is to happen before the answer happens, and the answer is found. -/
def take (access : Access) (completion : Completion) : Bench × Tracker → Bench × Tracker
  | (bench, tracker) =>
    let (reply, rest) := bench.next access
    let before := reply.before.elim tracker (Effect.apply · tracker)
    let (outcome, resolved) := rest.resolve access reply.answer before
    let asRead := reply.asRead.getD access.isRead
    let due : Delivery := {
      access
      completion
      outcome := outcome.map fun (outcome, brought) => (report asRead outcome, brought)
      after := reply.after
      latency := if reply.answer = .bulb ∧ outcome.isSome then bench.latency else 0 }
    ({ resolved with due := some due }, before)

/-- Writes a call down. -/
def record (call : Call) (bench : Bench) : Bench :=
  { bench with log := bench.log ++ [call] }

/-- Gives the answer of a call, lets happen what happens after it, and writes the call down. -/
def deliver (due : Delivery) : Bench × Tracker → Bench × Tracker
  | (bench, tracker) =>
    let after (tracker : Tracker) : Tracker := due.after.elim tracker (Effect.apply · tracker)
    match due.outcome with
    | none =>
      ({ bench with held := bench.held ++ [some due.completion] }.record (.access due.access .kept),
        after tracker)
    | some (report, brought) =>
      let (applied, completed) := tracker.complete due.completion report
      (bench.record (.access due.access (.completed applied brought)), after completed)

/-- The bench as a transport. -/
def transport : Transport Bench where
  write characteristic value := take (.write characteristic value)
  read characteristic := take (.read characteristic)
  disconnect := fun (bench, tracker) =>
    ({ bench.record .disconnect with bulb := bench.bulb.map Bulb.disconnect }, tracker)
  latency bench := bench.due.elim 0 Delivery.latency
  callReturn := fun (bench, tracker) =>
    match bench.due with
    | none => (bench, tracker)
    | some due => deliver due ({ bench with due := none }, tracker)

/-- Appends replies to both scripts. -/
def script (writes reads : List Reply) (bench : Bench) : Bench :=
  { bench with writes := bench.writes ++ writes, reads := bench.reads ++ reads }

/-- Takes a kept completion out, if it is still there. -/
def release (number : Nat) (bench : Bench) : Option Completion × Bench :=
  (bench.held.getD number none, { bench with held := bench.held.set number none })

end Bench

end MeshLight.Link
