import MeshLight.Bulb.Basic
import MeshLight.Link.Transport

/-!
# The bulb as a transport

A bulb takes writes and reads like any light behind a link. Faults and a missing link come before
the protocol; a dropped operation is never completed, every other one after a short while. To a side
that waits longer it makes no difference how long that while is, and to a side that does not wait
long enough the bulb is silent.
-/

namespace MeshLight

namespace Bulb

open Link (Characteristic Report Completion Tracker Transport ConnectionEvent)

/-- Counts a write. -/
def countWrite (bulb : Bulb) : Bulb :=
  { bulb with statistics := { bulb.statistics with writes := bulb.statistics.writes + 1 } }

/-- Counts a read. -/
def countRead (bulb : Bulb) : Bulb :=
  { bulb with statistics := { bulb.statistics with reads := bulb.statistics.reads + 1 } }

/-- Takes a write. Without a report the write was dropped. -/
def write (characteristic : Characteristic) (value : Bytes) (bulb : Bulb) : Option Report × Bulb :=
  let counted := bulb.countWrite
  if bulb.faults.dropWrites then (none, counted)
  else
    match bulb.faults.failWrites with
    | some reason => (some (.writeFailed reason), counted)
    | none =>
      if bulb.connected then
        (some .written,
          match characteristic with
          | .pairing => counted.writePairing value
          | .status => counted
          | .command => counted.writeCommand value)
      else (some (.writeFailed "not connected"), counted)

/-- Answers a read. Without a report the read was dropped. -/
def read (characteristic : Characteristic) (bulb : Bulb) : Option Report × Bulb :=
  let counted := bulb.countRead
  if bulb.faults.dropReads then (none, counted)
  else
    match bulb.faults.failReads with
    | some reason => (some (.readFailed reason), counted)
    | none =>
      if bulb.connected then
        let (bytes, answered) :=
          match characteristic with
          | .pairing => counted.readPairing
          | .status => counted.readStatus
          | .command => ([], counted)
        (some (.delivered bytes), answered)
      else (some (.readFailed "not connected"), counted)

/-- Drops the link, the session and the answer that waits. -/
def disconnect (bulb : Bulb) : Bulb :=
  { bulb with
    connected := false
    key := none
    pairResponse := none
    statistics := { bulb.statistics with disconnects := bulb.statistics.disconnects + 1 } }

/-- Brings the link up again. -/
def connect (bulb : Bulb) : Bulb :=
  { bulb with connected := true }

/-- What a bulb reports when its link comes up. -/
def connectionEvent : ConnectionEvent :=
  .connected true

/-- Puts other faults in force. -/
def setFaults (faults : Faults) (bulb : Bulb) : Bulb :=
  { bulb with faults }

/-- Completes an operation with what the bulb reported, if it reported anything. -/
def deliver (completion : Completion) (report : Option Report) (tracker : Tracker) : Tracker :=
  match report with
  | some report => (tracker.complete completion report).2
  | none => tracker

/-- How long a bulb takes to complete an operation, in milliseconds. -/
def latency : Nat :=
  2

/-- A bulb whose completions come in time, as if during the call. -/
def transport : Transport Bulb where
  write characteristic value completion := fun (bulb, tracker) =>
    let (report, changed) := bulb.write characteristic value
    (changed, deliver completion report tracker)
  read characteristic completion := fun (bulb, tracker) =>
    let (report, changed) := bulb.read characteristic
    (changed, deliver completion report tracker)
  disconnect := fun (bulb, tracker) => (bulb.disconnect, tracker)

/-- A bulb whose completions come too late: by then their cycle is over, so they are left out. -/
def lateTransport : Transport Bulb where
  write characteristic value _ := fun (bulb, tracker) =>
    ((bulb.write characteristic value).2, tracker)
  read characteristic _ := fun (bulb, tracker) => ((bulb.read characteristic).2, tracker)
  disconnect := transport.disconnect

/-- The bulb as a side meets it that waits for a bound, in milliseconds. -/
def transportWithin (bound : Nat) : Transport Bulb :=
  if latency < bound then transport else lateTransport

end Bulb

end MeshLight
