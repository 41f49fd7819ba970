import MeshLight.CommandLine.Run
import MeshLight.Proofs.Text.Hex
import MeshLight.Proofs.Session.Relocation

/-!
# Invocations against the simulated bulb

The simulated bulb has the credentials of the configuration, so pairing with it succeeds, and what
an invocation then says is foreseen from the address and the command alone. Credentials, mesh id,
bound and randomness of either side cancel out: they decide the bytes on the air, never the text.

What is foreseen is written out here, with the numbers and texts of a command and without the
functions that the program words its answers with.

Only a move can still be refused. Its texts are checked first, the name before the password, then
its long-term key must be hexadecimal; a long-term key that is too long is refused by the session.
-/

namespace MeshLight.CommandLine

open Session (Calm Controller Paired Procedure Settings World)

/-! ## What is foreseen -/

/-- What an invocation against the simulated bulb says behind the address, by its command alone. All
texts are written out, and the sizes and digits of a move are those of its texts. -/
def foreseen : Command → Except RunFailure String
  | .pair => .ok "session established"
  | .on => .ok "sent Power(true)"
  | .off => .ok "sent Power(false)"
  | .color red green blue =>
    .ok ("sent Color \x7b red: " ++ toString red.toNat ++ ", green: " ++ toString green.toNat
      ++ ", blue: " ++ toString blue.toNat ++ " \x7d")
  | .brightness percent =>
    .ok ("sent ColorBrightness(" ++ toString (min percent.toNat 100) ++ ")")
  | .whiteBrightness percent =>
    .ok ("sent WhiteBrightness(" ++ toString (min percent.toNat 100 * 127 / 100) ++ ")")
  | .whiteTemperature percent =>
    .ok ("sent WhiteTemperature(" ++ toString (min percent.toNat 100) ++ ")")
  | .status => .ok "mesh id 1: off, white 127/127 temp 0, rgb (0, 0, 0) at 100%"
  | .setMesh name password longTermKey =>
    if 16 < name.utf8ByteSize then
      .error (.argument ("mesh name is " ++ toString name.utf8ByteSize ++ " bytes long (max 16)"))
    else if 16 < password.utf8ByteSize then
      .error (.argument
        ("mesh password is " ++ toString password.utf8ByteSize ++ " bytes long (max 16)"))
    else if longTermKey.utf8ByteSize % 2 = 1 then
      .error (.argument "ltk: Odd number of digits")
    else
      match Hex.firstOther? 0 (Bytes.ofText longTermKey) with
      | some (byte, place) =>
        .error (.argument ("ltk: Invalid character " ++ Quoted.character (Char.ofNat byte.toNat)
          ++ " at position " ++ toString place))
      | none =>
        if 16 < longTermKey.utf8ByteSize / 2 then
          .error (.session (.invalidCredentials
            (.credentialTooLong "long-term key" (longTermKey.utf8ByteSize / 2) 16)))
        else .ok ("joined mesh " ++ name)

/-- How a new bulb is. -/
def freshLight : Light.Status :=
  { meshId := 1, whiteBrightness := Light.whiteBrightnessLimit, colorBrightness := 100 }

/-- What a status says of a new bulb. -/
theorem freshLight_text :
    freshLight.text = "mesh id 1: off, white 127/127 temp 0, rgb (0, 0, 0) at 100%" := by
  decide

/-- What the command line makes of a configuration: another bound on each step, if it asks for
one. -/
def Invocation.overriding (invocation : Invocation) (configuration : Configuration) :
    Configuration :=
  { configuration with stepTimeout := invocation.timeout.getD configuration.stepTimeout }

/-- The bulb in front of an invocation that gives it no password of its own. -/
def ownBulb (settings : Settings) : Bulb :=
  .ofSettings { address := settings.address, credentials := settings.credentials }

/-- The pairing that every invocation begins with, in front of a bulb. -/
def paired (unseeded : Random.Source) (settings : Settings) (bulb : Bulb) :
    (Session.Result × Controller) × World Bulb :=
  ((Controller.ofSettings settings unseeded).perform settings.meshId .pair).finish
    (Bulb.transportWithin settings.bound) { transport := bulb }

/-- An invocation of the simulated bulb, with the configured password, under a configuration that is
valid and leaves the bulb the time that it takes. The bound on each step is the one that the command
line asks for. -/
structure Simulates (invocation : Invocation) (configuration : Configuration) : Prop where
  simulate : invocation.simulate = true
  devicePassword : invocation.devicePassword = none
  valid : (invocation.overriding configuration).validate = .ok ()
  inTime : Bulb.latency < (invocation.overriding configuration).stepTimeout.toNat

/-! ## Settings -/

/-- The settings of a configuration, check by check. -/
theorem settings_eq (configuration : Configuration) :
    configuration.settings =
      match Address.parse configuration.address,
        Credentials.make configuration.meshName configuration.meshPassword with
      | .error fault, _ => .error (.invalid fault)
      | .ok _, .error fault => .error (.invalid fault)
      | .ok address, .ok credentials =>
        if configuration.stepTimeout = 0 then .error .zeroTimeout
        else .ok { address, credentials, meshId := configuration.meshId,
                   bound := configuration.stepTimeout.toNat, seed := configuration.seed } := by
  unfold Configuration.settings
  cases Address.parse configuration.address with
  | error fault => rfl
  | ok address =>
    cases Credentials.make configuration.meshName configuration.meshPassword with
    | error fault => rfl
    | ok credentials =>
      by_cases zero : configuration.stepTimeout = 0
      · simp only [zero, if_true]
        rfl
      · simp only [zero, if_false]
        rfl

/-- What the settings of a valid configuration are made of. -/
theorem settings_of_valid {configuration : Configuration}
    (valid : configuration.validate = .ok ()) :
    ∃ settings, configuration.settings = .ok settings ∧
      Address.parse configuration.address = .ok settings.address ∧
      Credentials.make configuration.meshName configuration.meshPassword =
        .ok settings.credentials ∧
      settings.bound = configuration.stepTimeout.toNat := by
  rw [Configuration.validate, settings_eq] at valid
  rw [settings_eq]
  cases parsed : Address.parse configuration.address with
  | error fault => simp [parsed, Except.map] at valid
  | ok address =>
    cases made : Credentials.make configuration.meshName configuration.meshPassword with
    | error fault => simp [parsed, made, Except.map] at valid
    | ok credentials =>
      by_cases zero : configuration.stepTimeout = 0
      · simp [parsed, made, zero, Except.map] at valid
      · exact ⟨_, if_neg zero, rfl, rfl, rfl⟩

/-- An invocation of the simulated bulb pairs with a bulb that has the same credentials. -/
theorem run_simulated (unseeded : Random.Source) {invocation : Invocation}
    {configuration : Configuration} (simulates : Simulates invocation configuration) :
    ∃ settings, Address.parse configuration.address = .ok settings.address ∧
      Bulb.latency < settings.bound ∧
      (invocation.overriding configuration).settings = .ok settings ∧
      simulatedBulb invocation (invocation.overriding configuration) settings.address =
        .ok (ownBulb settings) ∧
      run unseeded invocation (.ok configuration) =
        operate settings unseeded invocation.command (ownBulb settings) := by
  obtain ⟨simulate, devicePassword, valid, inTime⟩ := simulates
  obtain ⟨settings, given, address, made, bound⟩ := settings_of_valid valid
  have bulb : simulatedBulb invocation (invocation.overriding configuration) settings.address =
      .ok (ownBulb settings) := by
    simp only [simulatedBulb, devicePassword, Option.getD_none, credentials, made]
    rfl
  refine ⟨settings, address, bound ▸ inTime, given, bulb, ?_⟩
  unfold Invocation.overriding at given bulb
  simp [run, Except.mapError, given, bulb, simulate, bind, Except.bind, pure, Except.pure]

/-! ## Light commands -/

/-- A percentage on a scale that ends below a hundred and twenty-eight. -/
theorem toNat_scaled (percent limit : UInt8) (upTo : limit.toNat ≤ 127) :
    (Light.scaled percent limit).toNat = min percent.toNat 100 * limit.toNat / 100 := by
  have bound : min percent.toNat 100 * limit.toNat ≤ 100 * 127 :=
    Nat.mul_le_mul (Nat.min_le_right _ _) upTo
  rw [Light.scaled, UInt8.toNat_ofNat', Nat.mod_eq_of_lt (by omega)]

/-- A percentage on a scale of a hundred. -/
theorem toNat_scaled_hundred (percent : UInt8) :
    (Light.scaled percent 100).toNat = min percent.toNat 100 := by
  rw [toNat_scaled percent 100 (by decide)]
  exact Nat.mul_div_cancel _ (by decide)

/-- What is foreseen of a light command is that it is sent, in the form shown of it. -/
theorem foreseen_light {command : Command} {light : Light.Command}
    (lit : command.light? = some light) : foreseen command = .ok ("sent " ++ light.shown) := by
  cases command with
  | on => cases lit; rfl
  | off => cases lit; rfl
  | color red green blue =>
    cases lit
    have shown : (Light.Command.color red green blue).shown =
        "Color \x7b red: " ++ toString red.toNat ++ ", green: " ++ toString green.toNat
          ++ ", blue: " ++ toString blue.toNat ++ " \x7d" := rfl
    have joined : "sent " ++ "Color \x7b red: " = "sent Color \x7b red: " := by decide
    rw [foreseen, shown, ← joined]
    simp only [String.append_assoc]
  | brightness percent =>
    cases lit
    have joined : "sent " ++ "ColorBrightness(" = "sent ColorBrightness(" := by decide
    rw [foreseen, ← toNat_scaled_hundred, ← joined]
    simp only [String.append_assoc]
    rfl
  | whiteBrightness percent =>
    cases lit
    have value : (Light.scaled percent Light.whiteBrightnessLimit).toNat =
        min percent.toNat 100 * 127 / 100 := toNat_scaled percent 127 (by decide)
    have joined : "sent " ++ "WhiteBrightness(" = "sent WhiteBrightness(" := by decide
    rw [foreseen, ← value, ← joined]
    simp only [String.append_assoc]
    rfl
  | whiteTemperature percent =>
    cases lit
    have joined : "sent " ++ "WhiteTemperature(" = "sent WhiteTemperature(" := by decide
    rw [foreseen, ← toNat_scaled_hundred, ← joined]
    simp only [String.append_assoc]
    rfl
  | pair => cases lit
  | status => cases lit
  | setMesh name password longTermKey => cases lit

/-! ## Moves -/

section Moves

variable {name password longTermKey : String}

/-- How a value that does not fit into a field is refused. -/
theorem tooLong_message (field : MeshField) (size : Nat) :
    (Frame.Fault.credentialTooLong field.label size fieldLimit).message =
      field.label ++ " is " ++ toString size ++ " bytes long (max 16)" := by
  have joined : " bytes long (max " ++ "16" ++ ")" = " bytes long (max 16)" := by decide
  rw [← joined]
  simp only [← String.append_assoc]
  rfl

/-- A name that does not fit is refused before anything else. -/
theorem request_longName (long : 16 < name.utf8ByteSize) :
    request (.setMesh name password longTermKey) =
      .error (.argument
        ("mesh name is " ++ toString name.utf8ByteSize ++ " bytes long (max 16)")) := by
  have tooLong : ¬(Bytes.ofText name).length ≤ fieldLimit := Nat.not_le_of_lt long
  have joined : MeshField.name.label ++ " is " = "mesh name is " := by decide
  rw [← joined, ← tooLong_message]
  simp only [request, credentials, Credentials.make, dif_neg tooLong]
  rfl

/-- Then a password that does not fit. -/
theorem request_longPassword (nameFits : name.utf8ByteSize ≤ 16)
    (long : 16 < password.utf8ByteSize) :
    request (.setMesh name password longTermKey) =
      .error (.argument
        ("mesh password is " ++ toString password.utf8ByteSize ++ " bytes long (max 16)")) := by
  have fits : (Bytes.ofText name).length ≤ fieldLimit := nameFits
  have tooLong : ¬(Bytes.ofText password).length ≤ fieldLimit := Nat.not_le_of_lt long
  have joined : MeshField.password.label ++ " is " = "mesh password is " := by decide
  rw [← joined, ← tooLong_message]
  simp only [request, credentials, Credentials.make, dif_pos fits, dif_neg tooLong]
  rfl

/-- Then a long-term key that is not hexadecimal; with one that is, a move is asked for. -/
theorem request_setMesh (nameFits : name.utf8ByteSize ≤ 16)
    (passwordFits : password.utf8ByteSize ≤ 16) :
    request (.setMesh name password longTermKey) =
      match Hex.decode (Bytes.ofText longTermKey) with
      | .error fault => .error (.argument ("ltk: " ++ fault.message))
      | .ok key => .ok (some (.migrate ⟨name, password, nameFits, passwordFits⟩ key)) := by
  have fits : (Bytes.ofText name).length ≤ fieldLimit := nameFits
  have fitsToo : (Bytes.ofText password).length ≤ fieldLimit := passwordFits
  simp only [request, credentials, Credentials.make, dif_pos fits, dif_pos fitsToo]
  cases Hex.decode (Bytes.ofText longTermKey) with
  | error fault => rfl
  | ok key => rfl

end Moves

/-! ## Commands -/

/-- What an execution says, behind the address. -/
def told (settings : Settings) (command : Command) (controller : Controller) (world : World Bulb) :
    Except RunFailure String := do
  report command (← (execute settings command controller world).1)

/-- A command that is refused says so. -/
theorem told_refused (settings : Settings) {command : Command} {failure : RunFailure}
    (refused : request command = .error failure) (controller : Controller) (world : World Bulb) :
    told settings command controller world = .error failure := by
  simp only [told, execute, refused]
  rfl

section Executed

variable {settings : Settings} {controller : Controller} {world : World Bulb}
  (inTime : Bulb.latency < settings.bound) (secured : Paired controller world)

/-- In calm a paired controller moves the bulb exactly if the long-term key fits. -/
theorem perform_migrate (secured : Paired controller world) (meshId : UInt16)
    (target : Credentials) (key : Bytes) :
    ((controller.perform meshId (.migrate target key)).finish Bulb.transport world).1.1 =
      if 16 < key.length then
        .error (.invalidCredentials (.credentialTooLong "long-term key" key.length 16))
      else .ok .done := by
  by_cases long : 16 < key.length
  · obtain ⟨held, here, -⟩ := secured.key
    have required := Controller.finish_requireKey controller Bulb.transport world
    rw [here] at required
    simp only [Controller.perform, Controller.migrate, Procedure.finish_bind, required,
      Option.elim, Controller.migrationFrames_tooLong held target long, Procedure.finish_pure,
      if_pos long]
    rfl
  · obtain ⟨later, finished, -⟩ :=
      controller.finish_calm_migrate secured target (Nat.le_of_not_lt long)
    simp only [Controller.perform, Procedure.finish_bind, finished, Procedure.finish_pure,
      if_neg long]
    rfl

include inTime

/-- An execution that asks for something carries it out in time. -/
theorem execute_request {command : Command} {asked : Session.Request}
    (requested : request command = .ok (some asked)) :
    (execute settings command controller world).1 =
      (((controller.perform settings.meshId asked).finish Bulb.transport world).1.1).mapError
        .session := by
  simp only [execute, requested, Bulb.transportWithin, if_pos inTime]

include secured

/-- A light command is sent. -/
theorem told_light {command : Command} {light : Light.Command}
    (lit : command.light? = some light) :
    told settings command controller world = foreseen command := by
  have stays : (Session.Request.light light).stays = true := rfl
  obtain ⟨-, -, answered⟩ := Controller.perform_serves secured settings.meshId stays
  have succeeded : (((controller.perform settings.meshId (.light light)).finish Bulb.transport
      world).1.1) = .ok .done := answered
  have requested : request command = .ok (some (.light light)) := by
    cases command <;> cases lit <;> rfl
  rw [told, execute_request inTime requested, succeeded, foreseen_light lit]
  cases command <;> cases lit <;> rfl

/-- A status says how the light is. -/
theorem told_status :
    told settings .status controller world = .ok world.transport.light.text := by
  have stays : Session.Request.status.stays = true := rfl
  obtain ⟨-, -, notification, answered, reports⟩ :=
    Controller.perform_serves secured settings.meshId stays
  have decoded : Light.Status.decode notification.payload = .ok world.transport.light :=
    reports.payload
  rw [told, execute_request inTime rfl, answered]
  change report .status (.notification notification) = _
  simp only [report, decoded]

/-- A move says what is foreseen. -/
theorem told_setMesh (name password longTermKey : String) :
    told settings (.setMesh name password longTermKey) controller world =
      foreseen (.setMesh name password longTermKey) := by
  rw [foreseen]
  by_cases longName : 16 < name.utf8ByteSize
  · rw [if_pos longName, told_refused settings (request_longName longName)]
  rw [if_neg longName]
  have nameFits := Nat.le_of_not_lt longName
  by_cases longPassword : 16 < password.utf8ByteSize
  · rw [if_pos longPassword, told_refused settings (request_longPassword nameFits longPassword)]
  rw [if_neg longPassword]
  have asked : request (.setMesh name password longTermKey) = _ :=
    request_setMesh nameFits (Nat.le_of_not_lt longPassword)
  rw [Hex.decode_eq, Bytes.length_ofText] at asked
  by_cases odd : longTermKey.utf8ByteSize % 2 = 1
  · rw [if_pos odd] at asked ⊢
    exact told_refused settings asked controller world
  rw [if_neg odd] at asked ⊢
  cases other : Hex.firstOther? 0 (Bytes.ofText longTermKey) with
  | some entry =>
    obtain ⟨byte, place⟩ := entry
    rw [other] at asked
    have joined : "ltk: " ++ "Invalid character " = "ltk: Invalid character " := by decide
    have message : (Hex.Fault.badDigit byte place).message =
        "Invalid character " ++ Quoted.character (Char.ofNat byte.toNat) ++ " at position "
          ++ toString place := rfl
    rw [told_refused settings asked, message, ← joined]
    simp only [String.append_assoc]
  | none =>
    rw [other] at asked
    rw [told, execute_request inTime asked, perform_migrate secured, Hex.length_pairValues,
      List.length_map, Bytes.length_ofText]
    dsimp only
    split <;> rfl

/-- On a paired fresh bulb every command says what is foreseen. -/
theorem told_foreseen (fresh : world.transport.light = freshLight)
    (command : Command) : told settings command controller world = foreseen command := by
  cases command with
  | pair => rfl
  | status =>
    rw [told_status inTime secured, fresh, freshLight_text]
    rfl
  | setMesh name password longTermKey => exact told_setMesh inTime secured _ _ _
  | _ => exact @told_light _ _ _ inTime secured _ _ rfl

end Executed

/-! ## Invocations -/

/-- Pairing with a bulb that has the same credentials succeeds, and leaves the light as it was. -/
theorem paired_ownBulb (unseeded : Random.Source) {settings : Settings}
    (inTime : Bulb.latency < settings.bound) :
    ∃ controller world, paired unseeded settings (ownBulb settings) =
        ((.ok .done, controller), world) ∧
      Paired controller world ∧ world.transport.light = freshLight := by
  have calm : Calm ({ transport := ownBulb settings } : World Bulb) := ⟨rfl, rfl, rfl⟩
  obtain ⟨later, finished, secured, bulb⟩ :=
    (Controller.ofSettings settings unseeded).finish_calm_pair _ calm rfl rfl
  refine ⟨_, later, ?_, secured, congrArg Bulb.light bulb⟩
  simp only [paired, Bulb.transportWithin, if_pos inTime, Controller.perform,
    Procedure.finish_bind, finished, Procedure.finish_pure]
  rfl

/-- An operation on a bulb that has the same credentials says what is foreseen. -/
theorem operate_ownBulb (unseeded : Random.Source) {settings : Settings}
    (inTime : Bulb.latency < settings.bound) (command : Command) :
    (operate settings unseeded command (ownBulb settings)).1 =
      (foreseen command).map (settings.address.text ++ ": " ++ ·) := by
  obtain ⟨controller, world, succeeded, secured, fresh⟩ := paired_ownBulb unseeded inTime
  have telling := told_foreseen inTime secured fresh command
  unfold paired at succeeded
  simp only [operate, succeeded]
  rw [← telling, told]
  cases (execute settings command controller world).1 with
  | error failure => rfl
  | ok answer =>
    cases report command answer with
    | error failure => rfl
    | ok text => rfl

/-- Against the simulated bulb every invocation with a valid configuration pairs, and says what is
foreseen from the address and the command. So two such invocations with one address and one command
say the same, whatever their credentials, mesh ids, bounds, seeds and randomness are. -/
theorem simulation_foreseen (unseeded other : Random.Source) {first second : Invocation}
    {here there : Configuration} (simulates : Simulates first here)
    (alike : Simulates second there)
    (address : Address.parse here.address = Address.parse there.address)
    (command : first.command = second.command) :
    ∃ settings bulb, Address.parse here.address = .ok settings.address ∧
      (first.overriding here).settings = .ok settings ∧
      simulatedBulb first (first.overriding here) settings.address = .ok bulb ∧
      (paired unseeded settings bulb).1.1 = .ok .done ∧
      (run unseeded first (.ok here)).1 =
        (foreseen first.command).map (settings.address.text ++ ": " ++ ·) ∧
      (run other second (.ok there)).1 = (run unseeded first (.ok here)).1 := by
  obtain ⟨settings, parsed, inTime, given, bulb, ran⟩ := run_simulated unseeded simulates
  obtain ⟨others, parsedToo, inTimeToo, -, -, ranToo⟩ := run_simulated other alike
  obtain ⟨controller, world, succeeded, -, -⟩ := paired_ownBulb unseeded inTime
  have same : others.address = settings.address := by
    rw [← address, parsed] at parsedToo
    exact (Except.ok.inj parsedToo).symm
  refine ⟨settings, ownBulb settings, parsed, given, bulb, by rw [succeeded], ?_, ?_⟩
  · rw [ran, operate_ownBulb unseeded inTime]
  · rw [ran, ranToo, operate_ownBulb unseeded inTime, operate_ownBulb other inTimeToo, same,
      command]

/-- Another mesh, mesh id, bound and seed, and the same texts: of the status, of a brightness beyond
a hundred percent, of a move, and of a move with a long-term key that is too long. -/
theorem simulation_foreseen_texts :
    let plain : Configuration := { address := "A4:C1:38:46:10:4E" }
    let other : Configuration :=
      { address := "a4-c1-38-46-10-4e", meshName := "home", meshPassword := "secret", meshId := 7,
        stepTimeout := 9000, seed := some 1 }
    let asking (command : Command) : Invocation :=
      { config := "light.yaml", simulate := true, command }
    let hurried (command : Command) : Invocation := { asking command with timeout := some 3 }
    let random : Random.Source := { word := fun _ => 7 }
    let tells (command : Command) (text : Except RunFailure String) : Prop :=
      (run random (asking command) (.ok plain)).1 = text ∧
        (run random (hurried command) (.ok other)).1 = text
    tells .status (.ok ("A4:C1:38:46:10:4E: mesh id 1: off, white 127/127 temp 0, "
        ++ "rgb (0, 0, 0) at 100%")) ∧
      tells (.brightness 150) (.ok "A4:C1:38:46:10:4E: sent ColorBrightness(100)") ∧
      tells (.setMesh "office" "5678" "00ff") (.ok "A4:C1:38:46:10:4E: joined mesh office") ∧
      tells (.setMesh "office" "5678" "000102030405060708090a0b0c0d0e0f10")
        (.error (.session (.invalidCredentials (.credentialTooLong "long-term key" 17 16)))) := by
  intro plain other asking hurried random tells
  have valid : plain.validate = .ok () := by decide +kernel
  have validToo : ({ other with stepTimeout := 3 } : Configuration).validate = .ok () := by
    decide +kernel
  have inTime : Bulb.latency < plain.stepTimeout.toNat := by decide
  have inTimeToo : Bulb.latency < (3 : UInt64).toNat := by decide
  have parsed : Address.parse plain.address = Address.parse other.address := by decide +kernel
  have named : (Address.parse plain.address).map (·.text) = .ok "A4:C1:38:46:10:4E" := by
    decide +kernel
  have said (command : Command) {text : Except RunFailure String}
      (expected : (foreseen command).map ("A4:C1:38:46:10:4E" ++ ": " ++ ·) = text) :
      tells command text := by
    have simulates : Simulates (asking command) plain := ⟨rfl, rfl, valid, inTime⟩
    have alike : Simulates (hurried command) other := ⟨rfl, rfl, validToo, inTimeToo⟩
    obtain ⟨settings, bulb, address, -, -, -, ran, same⟩ :=
      simulation_foreseen random random simulates alike parsed rfl
    have text : settings.address.text = "A4:C1:38:46:10:4E" := by
      rw [address] at named
      exact Except.ok.inj named
    rw [text] at ran
    exact ⟨ran.trans expected, same.trans (ran.trans expected)⟩
  have status : (foreseen .status).map ("A4:C1:38:46:10:4E" ++ ": " ++ ·) = .ok
    ("A4:C1:38:46:10:4E: mesh id 1: off, white 127/127 temp 0, " ++ "rgb (0, 0, 0) at 100%") := by
    decide +kernel
  exact ⟨said _ status, said _ (by decide +kernel), said _ (by decide +kernel),
    said _ (by decide +kernel)⟩

end MeshLight.CommandLine
