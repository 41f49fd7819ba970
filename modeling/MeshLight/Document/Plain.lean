import MeshLight.Document.Cursor

/-!
# Plain text

Text without quotes goes on over several lines as long as they are indented. What stands between two
of its words is a gap; a gap with line ends in it is folded.
-/

namespace MeshLight.Document

/-- What stands between two words of a text: the blanks before the first line end; whether a line
has ended, and its end unless that was escaped; and the further line ends. -/
structure Gap where
  blanks : List Char := []
  crossed : Bool := false
  first : Option Char := none
  more : List Char := []

namespace Gap

/-- Adds a blank; at the beginning of a line blanks do not count. -/
def addBlank (c : Char) (gap : Gap) : Gap :=
  if gap.crossed then gap else { gap with blanks := gap.blanks ++ [c] }

/-- Adds a line end. -/
def addBreak (c : Char) (gap : Gap) : Gap :=
  if gap.crossed then { gap with more := gap.more ++ [c] }
  else { gap with crossed := true, first := some c }

/-- What the gap counts for: its blanks within a line, a space for a single line feed, and otherwise
its line ends without a line feed in front of them. -/
def text (gap : Gap) : List Char :=
  if gap.crossed then
    match gap.first with
    | none => gap.more
    | some '\n' => if gap.more.isEmpty then [' '] else gap.more
    | some c => c :: gap.more
  else gap.blanks

/-- Whether there is nothing in the gap. -/
def isEmpty (gap : Gap) : Bool :=
  !gap.crossed && gap.blanks.isEmpty

end Gap

/-- Where a node stands: outside braces, at the least column or to the right of it, or between
braces. -/
inductive Place where
  | indented (least : Nat)
  | braced

namespace Place

/-- Whether the place is between braces. -/
def isBraced : Place → Bool
  | .indented _ => false
  | .braced => true

/-- The column where lines of the place begin at the earliest. -/
def least : Place → Nat
  | .indented least => least
  | .braced => 0

/-- Whether the text at a cursor belongs to the place. -/
def covers (place : Place) (cursor : Cursor) : Bool :=
  !cursor.isAtEnd && !cursor.seesMarker && place.least ≤ cursor.column

end Place

/-- The marks that separate what stands between braces and brackets. -/
def isSeparator (c : Char) : Bool :=
  [',', '[', ']', '{', '}'].contains c

/-- The marks with which no plain text begins. -/
def isMark (c : Char) : Bool :=
  isSeparator c ||
    ['-', '?', ':', '#', '&', '*', '!', '|', '>', '\'', '"', '%', '@', '`'].contains c

/-- Whether plain text begins at a cursor: with no mark, with a dash in front of a word, or outside
braces with a question mark or a colon in front of a word. -/
def startsPlain (place : Place) (cursor : Cursor) : Bool :=
  match cursor.rest with
  | [] => false
  | c :: rest =>
    !(isBlank c || isBreak c || isMark c) ||
      (c == '-' && !endsWord rest) ||
      (!place.isBraced && (c == '?' || c == ':') && !endsWord rest)

/-- Whether plain text ends in front of a character. -/
def endsPlain (place : Place) (c : Char) (following : List Char) : Bool :=
  (c == ':' && endsWord following) || (place.isBraced && isSeparator c)

/-- Whether a character within plain text is an error: between braces a colon in front of a
separator or a question mark. -/
def spoilsPlain (place : Place) (c : Char) (following : List Char) : Bool :=
  place.isBraced && c == ':' &&
    match following with
    | [] => false
    | next :: _ => isSeparator next || next == '?'

/-- Reads plain text on from a gap. It is refused if a tab stands in for indentation. -/
def plainFrom (place : Place) (text : List Char) (gap : Gap) (cursor : Cursor) :
    Option (List Char × Cursor) :=
  match _taken : cursor.next? with
  | none => some (text, cursor)
  | some (c, after) =>
    if isBreak c then plainFrom place text (gap.addBreak c) after
    else if isBlank c then
      if gap.crossed && c == '\t' && cursor.column < place.least then none
      else plainFrom place text (gap.addBlank c) after
    else if gap.crossed && (cursor.column < place.least || cursor.seesMarker) then
      some (text, cursor)
    else if c == '#' && !gap.isEmpty then some (text, cursor)
    else if spoilsPlain place c after.rest then none
    else if endsPlain place c after.rest then some (text, cursor)
    else plainFrom place (text ++ gap.text ++ [c]) {} after
termination_by cursor.rest.length
decreasing_by all_goals exact Cursor.length_of_next? _taken

/-- Reads plain text. -/
def plain (place : Place) (cursor : Cursor) : Option (List Char × Cursor) :=
  plainFrom place [] {} cursor

end MeshLight.Document
