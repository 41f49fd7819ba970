import MeshLight.Bulb.Link
import MeshLight.CommandLine.Invocation
import MeshLight.Configuration.Reader
import MeshLight.Session.Request

/-!
# Running an invocation

An invocation loads its configuration, pairs with the light and carries its command out. The only
light within reach is the simulated one.
-/

namespace MeshLight.CommandLine

open Session (Controller Settings World)
open Report (Count)

/-- Why an invocation fails: the configuration is refused, an operation on the light failed, an
argument of the command has a value that is not allowed, or there is no way to reach a light. -/
inductive RunFailure where
  | configuration (refusal : Configuration.Refusal)
  | session (failure : Session.Failure)
  | argument (detail : String)
  | noTransport
  deriving Repr, DecidableEq

/-- The wording of a failure. -/
def RunFailure.message : RunFailure → String
  | .configuration refusal => refusal.message
  | .session failure => failure.message
  | .argument detail => "Invalid argument: " ++ detail
  | .noTransport => "No BLE transport available; run with --simulate"

/-- Credentials from the command line. -/
def credentials (name password : String) : Except RunFailure Credentials :=
  (Credentials.make name password).mapError fun fault => .argument fault.message

/-- The light that an invocation simulates, with the credentials of the configuration unless another
password is given. -/
def simulatedBulb (invocation : Invocation) (configuration : Configuration) (address : Address) :
    Except RunFailure Bulb := do
  let password := invocation.devicePassword.getD configuration.meshPassword
  return .ofSettings { address, credentials := ← credentials configuration.meshName password }

/-- What a command asks of the light once it is paired; pairing itself asks nothing more. -/
def request (command : Command) : Except RunFailure (Option Session.Request) :=
  match command with
  | .pair => .ok none
  | .status => .ok (some .status)
  | .setMesh name password longTermKey => do
    let credentials ← credentials name password
    let key ← (Hex.decode (Bytes.ofText longTermKey)).mapError fun fault =>
      .argument ("ltk: " ++ fault.message)
    return some (.migrate credentials key)
  | other => .ok (other.light?.map .light)

/-- The text that reports the success of a command, behind the address. -/
def report (command : Command) (answer : Session.Answer) : Except RunFailure String :=
  match command, answer with
  | .pair, _ => .ok "session established"
  | .setMesh name _ _, _ => .ok ("joined mesh " ++ name)
  | .status, .notification content =>
    match Light.Status.decode content.payload with
    | .ok status => .ok status.text
    | .error fault => .error (.session (.packet fault))
  | other, _ => .ok ("sent " ++ ((other.light?.map (·.shown)).getD ""))

/-- Carries a command out on a paired light. -/
def execute (settings : Settings) (command : Command) (controller : Controller)
    (world : World Bulb) : Except RunFailure Session.Answer × World Bulb :=
  match request command with
  | .error failure => (.error failure, world)
  | .ok none => (.ok .done, world)
  | .ok (some request) =>
    let ((result, _), after) :=
      (controller.perform settings.meshId request).finish (Bulb.transportWithin settings.bound)
        world
    (result.mapError .session, after)

/-- Pairs with a bulb, carries a command out and reports it. Gives what was counted as well. -/
def operate (settings : Settings) (unseeded : Random.Source) (command : Command) (bulb : Bulb) :
    Except RunFailure String × List Count :=
  let controller := Controller.ofSettings settings unseeded
  let ((paired, controller), world) :=
    (controller.perform settings.meshId .pair).finish (Bulb.transportWithin settings.bound)
      { transport := bulb }
  match paired with
  | .error failure => (.error (.session failure), world.counts)
  | .ok _ =>
    let (answer, after) := execute settings command controller world
    (do
      let text ← report command (← answer)
      return settings.address.text ++ ": " ++ text, after.counts)

/-- Runs an invocation on the text of its configuration. -/
def run (unseeded : Random.Source) (invocation : Invocation)
    (loaded : Except Configuration.Refusal Configuration) :
    Except RunFailure String × List Count :=
  let prepared : Except RunFailure (Settings × Bulb) := do
    let loaded ← loaded.mapError .configuration
    let configuration :=
      { loaded with stepTimeout := invocation.timeout.getD loaded.stepTimeout }
    let settings ← configuration.settings.mapError .configuration
    if !invocation.simulate then
      throw .noTransport
    let bulb ← simulatedBulb invocation configuration settings.address
    return (settings, bulb)
  match prepared with
  | .error failure => (.error failure, [])
  | .ok (settings, bulb) => operate settings unseeded invocation.command bulb

end MeshLight.CommandLine
