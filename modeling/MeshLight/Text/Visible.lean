import MeshLight.Bytes

/-!
# Visible text

A text that comes from outside is shown without control characters and control sequences, so that it
cannot steer the terminal it is shown on. Sequences are those of ECMA-48: an escape character and
one letter, a control sequence up to its last letter, and strings up to their terminator. White
space is shown; inside a control sequence it ends the sequence.
-/

namespace MeshLight.Visible

/-- Where a text stands with regard to its control sequences. A mark is a character that goes before
the letter of a sequence, behind an escape character or in a device string. In an operating system
command a bell may end the string. -/
inductive Mode where
  | plain
  | escape
  | escapeMark
  | control
  | deviceHead
  | deviceParameter
  | deviceMark
  | body
  | systemCommand
  deriving Repr, DecidableEq

/-- Whether a character is white space that is shown wherever controls are carried out. -/
def isLayout (c : Char) : Bool :=
  ['\t', '\n', '\x0c', '\r'].contains c

/-- Whether a character of plain text is shown. -/
def isShown (c : Char) : Bool :=
  isLayout c || (' ' ≤ c && c ≠ '\x7f')

/-- Whether the body of a string ends with a character: the byte of the string terminator is among
the bytes that write it. -/
def endsBody (c : Char) : Bool :=
  (Bytes.ofText (String.singleton c)).contains 0x9c

/-- Whether a character is the last letter of a control sequence. -/
def isFinal (c : Char) : Bool :=
  '@' ≤ c && c ≤ '~'

/-- Whether a character is a mark that goes before the last letter. -/
def isMark (c : Char) : Bool :=
  ' ' ≤ c && c ≤ '/'

/-- What the letter behind an escape character begins or ends. -/
def Mode.ofLetter (c : Char) : Mode :=
  if isMark c then .escapeMark
  else if c = '[' then .control
  else if c = ']' then .systemCommand
  else if c = 'P' then .deviceHead
  else if c = 'X' || c = '^' || c = '_' then .body
  else if '0' ≤ c && c ≤ '~' then .plain
  else .escape

/-- The mode behind a character that is not shown, and neither begins a sequence anew nor gives it
up. -/
def Mode.next (mode : Mode) (c : Char) : Mode :=
  match mode with
  | .plain => .plain
  | .escape => .ofLetter c
  | .escapeMark => if '0' ≤ c && c ≤ '~' then .plain else .escapeMark
  | .control => if isFinal c then .plain else .control
  | .deviceHead =>
    if isMark c then .deviceMark
    else if '0' ≤ c && c ≤ '?' then .deviceParameter
    else if isFinal c then .body
    else .deviceHead
  | .deviceParameter =>
    if isMark c then .deviceMark
    else if '<' ≤ c && c ≤ '~' then .body
    else .deviceParameter
  | .deviceMark => if '0' ≤ c && c ≤ '~' then .body else .deviceMark
  | .body => if endsBody c then .plain else .body
  | .systemCommand => if c = '\x07' then .plain else .systemCommand

/-- Whether a character is shown in a mode. -/
def Mode.shows (mode : Mode) (c : Char) : Bool :=
  match mode with
  | .plain => isShown c
  | .escape => isLayout c
  | .escapeMark => isLayout c
  | .control => isLayout c
  | _ => false

/-- The characters that are shown, from a mode on. An escape character begins a sequence wherever it
stands, and two further controls give up any sequence. -/
def shown (mode : Mode) : List Char → List Char
  | [] => []
  | c :: rest =>
    if c = '\x1b' then shown .escape rest
    else if c = '\x18' || c = '\x1a' then shown .plain rest
    else if mode.shows c then c :: shown .plain rest
    else shown (mode.next c) rest

/-- The part of a text that is shown. -/
def text (content : String) : String :=
  String.ofList (shown .plain content.toList)

end MeshLight.Visible
