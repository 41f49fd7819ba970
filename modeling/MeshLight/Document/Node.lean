import MeshLight.Document.Indented
import MeshLight.Document.Tag

/-!
# Nodes

A key or a value is a node: a scalar, which may carry an anchor and a tag, or an alias. A node that
is left out is an empty plain scalar.
-/

namespace MeshLight.Document

/-- How a scalar is written: without quotes, between quotes, or as indented lines that are kept or
folded. -/
inductive Style where
  | plain
  | quoted
  | literal
  | folded
  deriving DecidableEq

/-- A text with the way in which it is written, and its tag in full if there is one. -/
structure Scalar where
  text : String := ""
  style : Style := .plain
  tag : Option String := none

/-- A key or a value: a scalar with the anchor that refers to it, or the name of an anchor that
refers to another node. -/
inductive Node where
  | scalar (anchor : Option String) (value : Scalar)
  | alias (name : String)

/-- What may stand in front of a scalar. -/
structure Properties where
  anchor : Option String := none
  tag : Option String := none

namespace Properties

/-- Whether there are none. -/
def isEmpty (properties : Properties) : Bool :=
  properties.anchor.isNone && properties.tag.isNone

/-- Adds an anchor; a second one is refused. -/
def addAnchor? (name : String) (properties : Properties) : Option Properties :=
  if properties.anchor.isSome then none else some { properties with anchor := some name }

/-- Adds a tag; a second one is refused. -/
def addTag? (name : String) (properties : Properties) : Option Properties :=
  if properties.tag.isSome then none else some { properties with tag := some name }

/-- Adds other properties. -/
def merge? (more properties : Properties) : Option Properties := do
  let named ← more.anchor.elim (some properties) fun name => properties.addAnchor? name
  more.tag.elim (some named) fun name => named.addTag? name

/-- Reads the property at a cursor, if there is one. -/
def readOne? (handles : Handles) (place : Place) (properties : Properties) (cursor : Cursor) :
    Option (Properties × Cursor) :=
  if cursor.sees '&' then do
    let (name, after) ← anchorName? (cursor.advance 1)
    return (← properties.addAnchor? name, after)
  else if cursor.sees '!' then do
    let (name, after) ← tagAt? handles place cursor
    return (← properties.addTag? name, after)
  else none

/-- Whether a property begins at a cursor. -/
def begin (cursor : Cursor) : Bool :=
  cursor.sees '&' || cursor.sees '!'

/-- Reads the properties in front of a node, at most `count` of them, and goes to the token behind
them. -/
def read? (handles : Handles) (place : Place) :
    Nat → Properties → Cursor → Option (Properties × Cursor)
  | 0, properties, cursor => some (properties, cursor)
  | count + 1, properties, cursor =>
    if place.covers cursor && begin cursor then do
      let (properties, after) ← properties.readOne? handles place cursor
      read? handles place count properties (← after.toToken? place.isBraced true)
    else some (properties, cursor)

/-- The node of a scalar with these properties. -/
def node (text : List Char) (style : Style) (properties : Properties) : Node :=
  .scalar properties.anchor { text := String.ofList text, style, tag := properties.tag }

/-- The node that is left out behind these properties. -/
def emptyNode (properties : Properties) : Node :=
  .scalar properties.anchor { tag := properties.tag }

end Properties

namespace Node

/-- A node that is left out. -/
def empty : Node :=
  .scalar none {}

/-- Reads the content of a node behind its properties. What cannot begin a scalar is left alone, so
that the node is an empty one. Indented text may begin one column further to the left than the
place, since nothing but its lines has to be indented. -/
def content? (place : Place) (properties : Properties) (cursor : Cursor) : Option (Node × Cursor) :=
  let after := cursor.advance 1
  let mayIndent := !place.isBraced && place.least ≤ cursor.column + 1
  if mayIndent && cursor.sees '|' then
    (indented false place.least after).map fun (text, after) =>
      (properties.node text .literal, after)
  else if mayIndent && cursor.sees '>' then
    (indented true place.least after).map fun (text, after) =>
      (properties.node text .folded, after)
  else if !place.covers cursor then some (properties.emptyNode, cursor)
  else if cursor.sees '*' then do
    guard properties.isEmpty
    let (name, after) ← anchorName? after
    return (.alias name, after)
  else if cursor.sees '\'' then
    (quoted .single after).map fun (text, after) => (properties.node text .quoted, after)
  else if cursor.sees '"' then
    (quoted .double after).map fun (text, after) => (properties.node text .quoted, after)
  else if startsPlain place cursor then
    (plain place cursor).map fun (text, after) => (properties.node text .plain, after)
  else some (properties.emptyNode, cursor)

/-- Reads a node, with at most one anchor and at most one tag. -/
def read? (handles : Handles) (place : Place) (cursor : Cursor) : Option (Node × Cursor) := do
  let (properties, start) ← Properties.read? handles place 2 {} cursor
  content? place properties start

end Node

end MeshLight.Document
