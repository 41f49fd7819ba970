import MeshLight.CommandLine.Walk
import MeshLight.Light.Command
import MeshLight.Text.Quoted

/-!
# Invocations

What a command line asks for: a command, the configuration to use and how to run.
-/

namespace MeshLight.CommandLine

/-- What to do with a light. Brightness and temperature are given in percent, and the long-term key
of a new mesh as hexadecimal text. -/
inductive Command where
  | pair
  | on
  | off
  | color (red green blue : UInt8)
  | brightness (percent : UInt8)
  | whiteBrightness (percent : UInt8)
  | whiteTemperature (percent : UInt8)
  | status
  | setMesh (name password longTermKey : String)
  deriving Repr, DecidableEq

namespace Command

/-- The light command that a command sends, if it sends one. -/
def light? : Command → Option Light.Command
  | .on => some (.power true)
  | .off => some (.power false)
  | .color red green blue => some (.color red green blue)
  | .brightness percent => some (.colorBrightnessPercent percent)
  | .whiteBrightness percent => some (.whiteBrightnessPercent percent)
  | .whiteTemperature percent => some (.whiteTemperaturePercent percent)
  | _ => none

/-- The form shown for inspection. -/
def shown : Command → String
  | .pair => "Pair"
  | .on => "On"
  | .off => "Off"
  | .color red green blue => s!"Color \x7b red: {red}, green: {green}, blue: {blue} \x7d"
  | .brightness percent => s!"Brightness \x7b percent: {percent} \x7d"
  | .whiteBrightness percent => s!"WhiteBrightness \x7b percent: {percent} \x7d"
  | .whiteTemperature percent => s!"WhiteTemperature \x7b percent: {percent} \x7d"
  | .status => "Status"
  | .setMesh name password longTermKey =>
    "SetMesh \x7b name: " ++ Quoted.text name ++ ", password: " ++ Quoted.text password
      ++ ", ltk: " ++ Quoted.text longTermKey ++ " \x7d"

end Command

/-- What a command line asks for. The timeout, in milliseconds, is the bound on each step that
overrides the configured one; the device password belongs to the simulated bulb, if it is not the
configured one. -/
structure Invocation where
  config : String
  timeout : Option UInt64 := none
  simulate : Bool := false
  devicePassword : Option String := none
  command : Command
  deriving Repr, DecidableEq

/-- The long-term key that a light gets if none is given. -/
def defaultLongTermKey : String := "c0c1c2c3c4c5c6c7d8d9dadbdcdddedf"

/-- A command as it is written: its name, its arguments and its options besides the one for help,
and what it means when slots are filled, unless one of them is missing. -/
structure CommandForm where
  name : String
  positions : List Slot := []
  options : List (String × Choice) := []
  command? : (Slot → Option Value) → Option Command

/-- A percentage, made into a command. -/
def ofPercentage (make : UInt8 → Command) (value? : Slot → Option Value) : Option Command :=
  match value? .percent with
  | some (.byte percent) => some (make percent)
  | _ => none

/-- Every command. -/
def commandForms : List CommandForm :=
  [{ name := "pair", command? := fun _ => some .pair },
   { name := "on", command? := fun _ => some .on },
   { name := "off", command? := fun _ => some .off },
   { name := "color", positions := [.red, .green, .blue],
     command? := fun value? =>
       match value? .red, value? .green, value? .blue with
       | some (.byte red), some (.byte green), some (.byte blue) => some (.color red green blue)
       | _, _, _ => none },
   { name := "brightness", positions := [.percent], command? := ofPercentage .brightness },
   { name := "white-brightness", positions := [.percent],
     command? := ofPercentage .whiteBrightness },
   { name := "white-temperature", positions := [.percent],
     command? := ofPercentage .whiteTemperature },
   { name := "status", command? := fun _ => some .status },
   { name := "set-mesh", positions := [.name, .password],
     options := [("ltk", .valued .longTermKey)],
     command? := fun value? =>
       match value? .name, value? .password, value? .longTermKey with
       | some (.text name), some (.text password), some (.text key) =>
         some (.setMesh name password key)
       | some (.text name), some (.text password), _ =>
         some (.setMesh name password defaultLongTermKey)
       | _, _, _ => none }]

/-- The command that shows help, on the program or on another command. -/
def helpName : String := "help"

/-- The options of the program, and the commands behind them. -/
def programGrammar : Grammar where
  long := [("config", .valued .config), ("timeout-ms", .valued .timeout),
    ("simulate", .switch .simulate), ("device-password", .valued .devicePassword),
    ("help", .help), ("version", .version)]
  short := [('c', .valued .config), ('h', .help), ('V', .version)]
  commands := commandForms.map (·.name) ++ [helpName]

/-- The options of a command. -/
def CommandForm.grammar (form : CommandForm) : Grammar where
  long := form.options ++ [("help", .help)]
  short := [('h', .help)]

/-- Reads what follows the name of a command. -/
def CommandForm.read (form : CommandForm) (words : List String) : Except Misuse Command := do
  let (walk, _) ← Walk.through form.grammar words { positions := form.positions }
  let walk ← walk.settle
  match form.command? walk.value? with
  | some command => return command
  | none => throw .missingArgument

/-- What a request for help leads to: help, if it is on nothing or on one command. -/
def helpOn : List String → Misuse
  | [] => .help
  | [topic] => if programGrammar.commands.contains topic then .help else .unknownCommand
  | _ => .unknownCommand

/-- Reads the words behind the name of the program. A mistake behind the name of a command is
reported before any other. -/
def Invocation.parse (words : List String) : Except Misuse Invocation := do
  let (walk, rest) ← Walk.through programGrammar words {}
  match rest with
  | none =>
    let walk ← walk.settle
    throw (if walk.filled.isEmpty then .nothingGiven else .missingCommand)
  | some (name, rest) =>
    match commandForms.find? (·.name == name) with
    | none => throw (helpOn rest)
    | some form =>
      let command ← form.read rest
      let walk ← walk.settle
      let timeout :=
        match walk.value? .timeout with
        | some (.word timeout) => some timeout
        | _ => none
      let devicePassword :=
        match walk.value? .devicePassword with
        | some (.text password) => some password
        | _ => none
      match walk.value? .config with
      | some (.text config) =>
        return { config, timeout, simulate := (walk.value? .simulate).isSome, devicePassword,
                 command }
      | _ => throw .missingArgument

end MeshLight.CommandLine
