import MeshLight.Document.Node

/-!
# Mappings

A document of settings is one mapping from keys to values, neither of which has parts of its own. It
is written line by line, each key at the same column, or between braces. A reading that meets
anything else is refused: lists, nested mappings, a second document.
-/

namespace MeshLight.Document

/-- A key and its value. -/
structure Entry where
  key : Node
  value : Node := .empty

/-- The greatest distance from the beginning of a key to its colon, unless a question mark announces
the key. -/
def keyLimit : Nat := 1024

/-- Whether the colon at `after` may follow a key that begins at `start`: in the same line, and not
too far behind. -/
def isKeyColon (start after : Cursor) : Bool :=
  after.line == start.line && after.offset ≤ start.offset + keyLimit

namespace Entry

/-- Reads an entry whose key stands at a column, in a line of its own. -/
def readLine? (handles : Handles) (column : Nat) (cursor : Cursor) : Option (Entry × Cursor) := do
  let inside := Place.indented (column + 1)
  if cursor.seesIndicator '?' then
    let (key, after) ← Node.read? handles inside (← (cursor.advance 1).toToken? false false)
    let next ← after.toToken? false true
    if next.column == column && next.seesIndicator ':' then
      let (value, after) ← Node.read? handles inside (← (next.advance 1).toToken? false false)
      return ({ key, value }, after)
    else return ({ key }, next)
  else
    let (key, after) ← Node.read? handles (.indented column) cursor
    let colon ← after.toToken? false true
    guard (after.offset ≠ cursor.offset && colon.seesIndicator ':' && isKeyColon cursor colon)
    let (value, after) ← Node.read? handles inside (← (colon.advance 1).toToken? false true)
    return ({ key, value }, after)

/-- Reads an entry between braces. -/
def readBraced? (handles : Handles) (cursor : Cursor) : Option (Entry × Cursor) := do
  let isAnnounced := cursor.sees '?'
  let start ← if isAnnounced then (cursor.advance 1).toToken? true true else some cursor
  let (key, after) ← Node.read? handles .braced start
  guard (isAnnounced || after.offset ≠ cursor.offset)
  let colon ← after.toToken? true true
  if colon.sees ':' then
    guard (isAnnounced || isKeyColon cursor colon)
    let (value, after) ← Node.read? handles .braced (← (colon.advance 1).toToken? true true)
    return ({ key, value }, after)
  else return ({ key }, colon)

end Entry

/-- Reads the entries whose keys stand at a column. Each takes at least one character, so that there
are no more than `fuel` of them if as many characters are left. -/
def readLines? (handles : Handles) (column : Nat) :
    Nat → Cursor → Option (List Entry × Cursor)
  | 0, cursor => some ([], cursor)
  | fuel + 1, cursor =>
    if cursor.isAtEnd || cursor.seesMarker || cursor.column < column then some ([], cursor)
    else if cursor.column ≠ column then none
    else do
      let (entry, after) ← Entry.readLine? handles column cursor
      let next ← after.toToken? false (after.column != 0)
      let (entries, last) ← readLines? handles column fuel next
      return (entry :: entries, last)

/-- Reads the entries between braces from behind the first brace or a comma. -/
def readBraces? (handles : Handles) : Nat → Cursor → Option (List Entry × Cursor)
  | 0, _ => none
  | fuel + 1, cursor =>
    if cursor.sees '}' then some ([], cursor.advance 1)
    else do
      let (entry, after) ← Entry.readBraced? handles cursor
      let next ← after.toToken? true true
      if next.sees '}' then return ([entry], next.advance 1)
      guard (next.sees ',')
      let next ← (next.advance 1).toToken? true true
      let (entries, last) ← readBraces? handles fuel next
      return (entry :: entries, last)

/-- A mapping as it is written, with the anchor that refers to the whole of it. -/
structure Mapping where
  anchor : Option String := none
  entries : List Entry

namespace Mapping

/-- Reads a mapping whose first key stands at the cursor. -/
def readLines? (handles : Handles) (held : Properties) (cursor : Cursor) :
    Option (Mapping × Cursor) := do
  let (entries, after) ←
    Document.readLines? handles cursor.column cursor.rest.length cursor
  return ({ anchor := held.anchor, entries }, after)

/-- Reads a mapping whose opening brace stands at the cursor. -/
def readBraces? (handles : Handles) (held : Properties) (cursor : Cursor) :
    Option (Mapping × Cursor) := do
  let start ← (cursor.advance 1).toToken? true true
  let (entries, after) ← Document.readBraces? handles cursor.rest.length start
  return ({ anchor := held.anchor, entries }, after)

/-- Reads the properties that stand in one line. -/
def lineProperties? (handles : Handles) (cursor : Cursor) : Option (Properties × Cursor) := do
  let (found, after) ← Properties.readOne? handles (.indented 0) {} cursor
  let next ← after.toToken? false true
  if next.line == cursor.line && Properties.begin next then
    let (found, after) ← found.readOne? handles (.indented 0) next
    return (found, ← after.toToken? false true)
  else return (found, next)

/-- Reads a mapping at a token. Properties in lines above it or in front of its brace are its own,
those in front of its first key are the key's. A key may begin only in a line of its own, and
`ownLine` says whether this is one. No more than `fuel` lines of properties are read. -/
def read? (handles : Handles) (ownLine : Bool) (held : Properties) :
    Nat → Cursor → Option (Mapping × Cursor)
  | 0, _ => none
  | fuel + 1, cursor =>
    if cursor.isAtEnd || cursor.seesMarker then none
    else if cursor.sees '{' then readBraces? handles held cursor
    else if Properties.begin cursor then do
      let (found, next) ← lineProperties? handles cursor
      if next.line ≠ cursor.line || next.sees '{' then
        let held ← held.merge? found
        read? handles (ownLine || next.line ≠ cursor.line) held fuel next
      else if ownLine then readLines? handles held cursor
      else none
    else if ownLine then readLines? handles held cursor
    else none

end Mapping

/-- Reads the directives at the front of a document. -/
def readDirectives? : Nat → Directives → Cursor → Option (Directives × Cursor)
  | 0, _, _ => none
  | fuel + 1, directives, cursor =>
    if cursor.column == 0 && cursor.sees '%' then do
      let (directives, below) ← directives.read? (cursor.advance 1)
      readDirectives? fuel directives (← below.toToken? false true)
    else some (directives, cursor)

/-- Reads to the end of a document behind its mapping; nothing but marks of its end may follow. -/
def readEnd? : Nat → Cursor → Option Unit
  | 0, _ => none
  | fuel + 1, cursor => do
    let next ← cursor.toToken? false true
    if next.isAtEnd then return ()
    guard (next.seesTriple '.')
    readEnd? fuel (next.advance 3)

/-- Reads a text that consists of one document. Directives ask for a line of dashes behind them. -/
def Mapping.ofText? (text : String) : Option Mapping := do
  guard (text.toList.all isAllowed)
  let fuel := text.length + 1
  let start : Cursor := { rest := text.toList }
  let first ← start.toToken? false false
  let (directives, opening) ← readDirectives? fuel {} first
  let handles := directives.handles ++ defaultHandles
  let (ownLine, root) ←
    if opening.seesTriple '-' then
      ((opening.advance 3).toToken? false true).map fun root => (root.line != opening.line, root)
    else if opening.offset = first.offset then some (true, opening)
    else none
  let (mapping, after) ← Mapping.read? handles ownLine {} fuel root
  readEnd? fuel after
  return mapping

end MeshLight.Document
