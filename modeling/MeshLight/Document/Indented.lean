import MeshLight.Document.Plain

/-!
# Indented text

Text that is written as a block of indented lines, either kept line by line or folded like a
paragraph. A header says how deep the block is and what becomes of the line ends behind its last
line.
-/

namespace MeshLight.Document

/-- What becomes of the line ends at the end of a block: the first one is kept, none is, or all
are. -/
inductive Chomping where
  | clip
  | strip
  | keep

/-- The header of a block: what becomes of its end, and by how many columns its lines are indented
if that is given. -/
structure Header where
  chomping : Chomping := .clip
  depth : Option Nat := none

/-- The chomping that a mark asks for. -/
def chomping? : Char → Option Chomping
  | '+' => some .keep
  | '-' => some .strip
  | _ => none

/-- The depth that a digit asks for. -/
def depth? (c : Char) : Option Nat :=
  if '1' ≤ c && c ≤ '9' then some (c.toNat - '0'.toNat) else none

/-- The header at the front of a text and its length. A zero is no depth and stays behind. -/
def header : List Char → Header × Nat
  | [] => ({}, 0)
  | c :: rest =>
    match chomping? c, depth? c with
    | some chomping, _ =>
      match rest.head?.bind depth? with
      | some depth => ({ chomping, depth := some depth }, 2)
      | none => ({ chomping }, 1)
    | none, some depth =>
      match rest.head?.bind chomping? with
      | some chomping => ({ chomping, depth := some depth }, 2)
      | none => ({ depth := some depth }, 1)
    | none, none => ({}, 0)

/-- Skips empty lines and the indentation of the next line. Without a given indentation all spaces
belong to it. Gives the line ends and the greatest column reached; a tab within the indentation is
refused. -/
def skipEmptyLines (indentation : Option Nat) (breaks : List Char) (deepest : Nat)
    (cursor : Cursor) : Option (List Char × Nat × Cursor) :=
  let isWithin :=
    match indentation with
    | none => true
    | some indentation => cursor.column < indentation
  match _taken : cursor.next? with
  | none => some (breaks, max deepest cursor.column, cursor)
  | some (c, after) =>
    if isBreak c then
      skipEmptyLines indentation (breaks ++ [c]) (max deepest cursor.column) after
    else if c == ' ' && isWithin then skipEmptyLines indentation breaks deepest after
    else if c == '\t' && isWithin then none
    else some (breaks, max deepest cursor.column, cursor)
termination_by cursor.rest.length
decreasing_by all_goals exact Cursor.length_of_next? _taken

/-- What has been read of a block: the lines so far, the line end behind the last of them, the line
ends of empty lines behind that, and whether the last line begins with a blank. -/
structure BlockText where
  text : List Char := []
  lineEnd : Option Char := none
  emptyLines : List Char
  isDented : Bool := false

/-- Adds a line. In a folded block a line feed between two lines that begin with no blank becomes a
space, or nothing if empty lines follow it. -/
def BlockText.addLine (folded : Bool) (line : List Char) (lineEnd : Option Char)
    (emptyLines : List Char) (block : BlockText) : BlockText :=
  let isDented := (line.head?.map isBlank).getD false
  let joint :=
    if folded && block.lineEnd == some '\n' && !block.isDented && !isDented then
      if block.emptyLines.isEmpty then [' '] else []
    else block.lineEnd.toList
  { text := block.text ++ joint ++ block.emptyLines ++ line, lineEnd, emptyLines, isDented }

/-- The text of a block whose end is chomped. -/
def BlockText.chomp (chomping : Chomping) (block : BlockText) : List Char :=
  match chomping with
  | .strip => block.text
  | .clip => block.text ++ block.lineEnd.toList
  | .keep => block.text ++ block.lineEnd.toList ++ block.emptyLines

/-- Reads the lines of a block. Each takes at least one character, so that there are no more than
`fuel` of them if as many characters are left. -/
def blockLines (folded : Bool) (indentation : Nat) : Nat → BlockText → Cursor →
    Option (BlockText × Cursor)
  | 0, block, cursor => some (block, cursor)
  | fuel + 1, block, cursor =>
    if cursor.column == indentation && !cursor.isAtEnd then do
      let (line, atEnd) := cursor.takeWhile (!isBreak ·)
      let (lineEnd, below) :=
        match atEnd.next? with
        | some (c, below) => (some c, below)
        | none => (none, atEnd)
      let (emptyLines, _, next) ← skipEmptyLines (some indentation) [] 0 below
      blockLines folded indentation fuel (block.addLine folded line lineEnd emptyLines) next
    else some (block, cursor)

/-- Reads an indented text from behind its indicator. The least column of its place bounds its
indentation; a given depth counts from one column less. -/
def indented (folded : Bool) (least : Nat) (cursor : Cursor) : Option (List Char × Cursor) := do
  let (header, length) := header cursor.rest
  let below ← (cursor.advance length).endLine?
  let given := header.depth.map (least - 1 + ·)
  let (emptyLines, deepest, start) ← skipEmptyLines given [] 0 below
  let indentation := given.getD (max deepest (max least 1))
  let (block, after) ← blockLines folded indentation start.rest.length { emptyLines } start
  return (block.chomp header.chomping, after)

end MeshLight.Document
