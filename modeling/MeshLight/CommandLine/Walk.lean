import MeshLight.CommandLine.Parameter

/-!
# Walking through a command line

The arguments are taken one by one. A value is not judged when it is met but when the next option or
argument begins, or at the end: so of two mistakes it can be the later one that is reported. A word
behind an option is its value unless it looks like an option itself, and behind two dashes alone
every word is an argument.
-/

namespace MeshLight.CommandLine

/-- What an option does. -/
inductive Choice where
  | help
  | version
  | switch (slot : Slot)
  | valued (slot : Slot)

/-- The options of the program or of a command, by name and by letter, and the commands that may
follow. -/
structure Grammar where
  long : List (String × Choice)
  short : List (Char × Choice)
  commands : List String := []

/-- How far a walk has come: the filled slots, the latest first; the slot that was begun last, with
its value if that has been met; whether two dashes alone were met; and the slots of the arguments
still to come. -/
structure Walk where
  filled : List (Slot × Value) := []
  pending : Option (Slot × Option String) := none
  isTrailing : Bool := false
  positions : List Slot := []

namespace Walk

/-- What a slot is filled with. -/
def value? (walk : Walk) (slot : Slot) : Option Value :=
  walk.filled.lookup slot

/-- Fills a slot that was not filled before. -/
def fill (slot : Slot) (value : Except Misuse Value) (walk : Walk) : Except Misuse Walk :=
  if (walk.value? slot).isSome then .error .repeated
  else value.map fun value => { walk with filled := (slot, value) :: walk.filled }

/-- Judges the value that was met last. -/
def settle (walk : Walk) : Except Misuse Walk :=
  match walk.pending with
  | none => .ok walk
  | some (_, none) => .error .missingValue
  | some (slot, some text) => { walk with pending := none }.fill slot (slot.read text)

/-- Whether the word that comes next is the value of an option. -/
def isAwaiting (walk : Walk) : Bool :=
  match walk.pending with
  | some (_, none) => !walk.isTrailing
  | _ => false

/-- Begins an option; its value may be attached to it. -/
def choose (choice : Choice) (attached : Option String) (walk : Walk) : Except Misuse Walk :=
  match choice, attached with
  | .valued slot, some text => do (← walk.settle).fill slot (slot.read text)
  | .valued slot, none => do return { ← walk.settle with pending := some (slot, none) }
  | _, some _ => .error .needlessValue
  | .switch slot, none => do (← walk.settle).fill slot (.ok .present)
  | .help, none => do
    let _ ← walk.settle
    throw .help
  | .version, none => do
    let _ ← walk.settle
    throw .version

/-- Takes an option with a name, behind its dashes; a value may follow an equals sign. -/
def takeLong (grammar : Grammar) (text : List Char) (walk : Walk) : Except Misuse Walk :=
  let name := text.takeWhile (· ≠ '=')
  let attached := (text.dropWhile (· ≠ '=')).tail?.map String.ofList
  match grammar.long.lookup (String.ofList name) with
  | some choice => walk.choose choice attached
  | none => .error .unknownArgument

/-- Takes options with a letter each, behind their dash. What follows the letter of an option with a
value is that value, with or without an equals sign. -/
def takeShort (grammar : Grammar) : List Char → Walk → Except Misuse Walk
  | [], walk => .ok walk
  | letter :: rest, walk =>
    match grammar.short.lookup letter with
    | none => .error .unknownArgument
    | some (.valued slot) =>
      match rest with
      | [] => walk.choose (.valued slot) none
      | '=' :: text => walk.choose (.valued slot) (some (String.ofList text))
      | text => walk.choose (.valued slot) (some (String.ofList text))
    | some choice => do takeShort grammar rest (← walk.choose choice none)

/-- Takes an argument for the next position. -/
def takePosition (grammar : Grammar) (text : String) (walk : Walk) : Except Misuse Walk :=
  match walk.positions with
  | slot :: positions => do
    return { ← walk.settle with pending := some (slot, some text), positions }
  | [] =>
    if grammar.commands.isEmpty || (walk.isTrailing && grammar.commands.contains text) then
      .error .unknownArgument
    else .error .unknownCommand

/-- Takes a word that is neither a command nor two dashes alone. -/
def takeWord (grammar : Grammar) (text : String) (walk : Walk) : Except Misuse Walk :=
  match text.toList, walk.pending with
  | '-' :: '-' :: name, _ => walk.takeLong grammar name
  | '-' :: letter :: letters, _ => walk.takeShort grammar (letter :: letters)
  | _, some (slot, none) => .ok { walk with pending := some (slot, some text) }
  | _, _ => walk.takePosition grammar text

/-- Walks through words to a command or to the end. Gives the command with the words behind it. -/
def through (grammar : Grammar) :
    List String → Walk → Except Misuse (Walk × Option (String × List String))
  | [], walk => .ok (walk, none)
  | word :: rest, walk =>
    if walk.isTrailing then do through grammar rest (← walk.takePosition grammar word)
    else if grammar.commands.contains word && !walk.isAwaiting then .ok (walk, some (word, rest))
    else if word = "--" then through grammar rest { walk with isTrailing := true }
    else do through grammar rest (← walk.takeWord grammar word)

end Walk

end MeshLight.CommandLine
