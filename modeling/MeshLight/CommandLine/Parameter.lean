import MeshLight.CommandLine.Value
import MeshLight.Text.Visible

/-!
# Parameters

The options and arguments that the program knows, the kinds of their values, and the ways in which a
command line can be misused.
-/

namespace MeshLight.CommandLine

/-- What a part of a command line fills. -/
inductive Slot where
  | config
  | timeout
  | simulate
  | devicePassword
  | red
  | green
  | blue
  | percent
  | name
  | password
  | longTermKey
  deriving Repr, DecidableEq

/-- The kind of a value. A path is a text that is not empty; a word is a number of 64 bits. -/
inductive Kind where
  | text
  | path
  | word
  | byte
  | percentage
  deriving Repr, DecidableEq

/-- The kind of value that a slot takes. -/
def Slot.kind : Slot → Kind
  | .config => .path
  | .timeout => .word
  | .red => .byte
  | .green => .byte
  | .blue => .byte
  | .percent => .percentage
  | _ => .text

/-- The name of a slot in messages. -/
def Slot.label : Slot → String
  | .config => "--config <CONFIG>"
  | .timeout => "--timeout-ms <TIMEOUT_MS>"
  | .simulate => "--simulate"
  | .devicePassword => "--device-password <DEVICE_PASSWORD>"
  | .red => "<RED>"
  | .green => "<GREEN>"
  | .blue => "<BLUE>"
  | .percent => "<PERCENT>"
  | .name => "<NAME>"
  | .password => "<PASSWORD>"
  | .longTermKey => "--ltk <LTK>"

/-- A value that fills a slot. A switch that was named is present; percentages are bytes. -/
inductive Value where
  | present
  | text (content : String)
  | byte (content : UInt8)
  | word (content : UInt64)
  deriving Repr, DecidableEq

/-- Why a command line is not carried out. Requests for help and for the version are among the
reasons. A needless value is one that a switch was given, and a bad one is not of the kind that its
slot takes. -/
inductive Misuse where
  | help
  | version
  | nothingGiven
  | unknownCommand
  | missingCommand
  | unknownArgument
  | repeated
  | needlessValue
  | missingValue
  | missingArgument
  | badValue (text : String) (slot : Slot) (fault : ValueFault)
  deriving Repr, DecidableEq

/-- The wording of a misuse. A value is shown without what could steer a terminal. -/
def Misuse.message : Misuse → String
  | .help => "help requested"
  | .version => "version requested"
  | .nothingGiven => "no arguments given"
  | .unknownCommand => "unrecognized subcommand"
  | .missingCommand => "a subcommand is required but was not provided"
  | .unknownArgument => "unexpected argument found"
  | .repeated => "an option cannot be used multiple times"
  | .needlessValue => "unexpected value for a flag"
  | .missingValue => "a value is required but none was supplied"
  | .missingArgument => "required arguments were not provided"
  | .badValue text slot fault =>
    "invalid value '" ++ Visible.text text ++ "' for '" ++ slot.label ++ "': " ++ fault.message

/-- Reads the value of a slot. -/
def Slot.read (slot : Slot) (text : String) : Except Misuse Value :=
  match slot.kind with
  | .text => .ok (.text text)
  | .path => if text.isEmpty then .error .missingValue else .ok (.text text)
  | .word => ((word text).map .word).mapError (.badValue text slot)
  | .byte => ((byte text).map .byte).mapError (.badValue text slot)
  | .percentage => ((percentage text).map .byte).mapError (.badValue text slot)

end MeshLight.CommandLine
