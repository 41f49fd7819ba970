import MeshLight.Frame.Command
import MeshLight.Session.Settings
import MeshLight.Session.Step

/-!
# Controllers

A controller owns the credentials, the randomness and the steps of one session. The session key is
not its own: it lives in the tracker, where a lost link can drop it at any time.

When an operation fails, the controller forces the phase to `fail`, drops the link if the failure
asks for it and begins a new cycle. A cancelled controller touches nothing any more.
-/

namespace MeshLight.Session

/-- The side that pairs with the light at an address and talks to it. The credentials are those of
the next pairing, the bound is that on every wait, in milliseconds, and session randoms and sequence
numbers come from the source. The last random is that of the latest pairing. -/
structure Controller where
  address : Address
  credentials : Credentials
  bound : Nat
  random : Random.Source
  lastRandom : Option SessionRandom := none

namespace Controller

/-- The controller of a session. -/
def ofSettings (settings : Settings) (unseeded : Random.Source) : Controller :=
  { address := settings.address, credentials := settings.credentials, bound := settings.bound,
    random := settings.random unseeded }

/-- The form shown for inspection. -/
def shown (controller : Controller) (established : Bool) : String :=
  "SessionManager \x7b address: " ++ controller.address.shown ++ ", credentials: "
    ++ controller.credentials.shown ++ ", established: " ++ toString established ++ " \x7d"

/-- Draws the random of a pairing and remembers it. -/
def drawRandom (controller : Controller) : SessionRandom × Controller :=
  let (bytes, random) := controller.random.draw 8
  (⟨bytes⟩, { controller with random, lastRandom := some ⟨bytes⟩ })

/-- Draws the sequence number of a command frame. -/
def drawSequence (controller : Controller) : Frame.Sequence × Controller :=
  let (sequence, random) := controller.random.draw 3
  (sequence, { controller with random })

/-- The installed key, or a refusal without any traffic. -/
def requireKey (controller : Controller) : Attempt SessionKey :=
  ExceptT.mk do
    match ← Procedure.sessionKey with
    | some key => return .ok key
    | none => return .error (.notEstablished controller.address)

/-- Writes in a step of this session. -/
def write (controller : Controller) (step : String) (characteristic : Link.Characteristic)
    (value : Bytes) : Attempt Unit :=
  Step.write controller.bound step characteristic value

/-- Reads in a step of this session. -/
def read (controller : Controller) (step : String) (characteristic : Link.Characteristic) :
    Attempt Bytes :=
  Step.read controller.bound step characteristic

/-- Drops the key and the link. A key that was there is reported and counted. -/
def disconnect : Procedure Unit := do
  let had ← Procedure.clearKey
  Procedure.disconnect
  if had then
    Procedure.count .disconnect
    Procedure.emit .disconnected

/-- Applies the policy for a failed operation. -/
def abort (failure : Failure) : Procedure Unit := do
  if ← Procedure.isCancelled then
    return ()
  Procedure.setPhase .fail
  if failure.requiresDisconnect then
    disconnect
  Procedure.reset

end Controller

end MeshLight.Session
