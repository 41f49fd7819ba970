import MeshLight.Document.Quotation

/-!
# Anchors, tags and directives

A node may carry an anchor, by which an alias refers to it, and a tag, which names its type. Tags
are written in short with handles; directives at the front of a document define handles of their
own.
-/

namespace MeshLight.Document

/-- Whether a character may stand in the name of an anchor, a handle or a directive. -/
def isNameCharacter (c : Char) : Bool :=
  ('0' ≤ c && c ≤ '9') || ('A' ≤ c && c ≤ 'Z') || ('a' ≤ c && c ≤ 'z') || c == '_' || c == '-'

/-- Reads the name of an anchor or an alias. It is not empty, and a gap or one of a few marks
follows it. -/
def anchorName? (cursor : Cursor) : Option (String × Cursor) :=
  let (name, after) := cursor.takeWhile isNameCharacter
  let isClosed := endsWord after.rest ||
    ((after.rest.head?.map fun c => ['?', ':', ',', ']', '}', '%', '@', '`'].contains c).getD false)
  if name.isEmpty || !isClosed then none else some (String.ofList name, after)

/-- Whether a character may stand in a tag. Commas and brackets may do so only where the tag is
written in full. -/
def isTagCharacter (inFull : Bool) (c : Char) : Bool :=
  isNameCharacter c ||
    [';', '/', '?', ':', '@', '&', '=', '+', '$', '.', '!', '~', '*', '\'', '(', ')'].contains c ||
    (inFull && [',', '[', ']'].contains c)

/-- How many further bytes a first byte of a UTF-8 sequence asks for. -/
def continuationCount? (octet : Nat) : Option Nat :=
  if octet < 0x80 then some 0
  else if 0xc0 ≤ octet && octet < 0xe0 then some 1
  else if 0xe0 ≤ octet && octet < 0xf0 then some 2
  else if 0xf0 ≤ octet && octet < 0xf8 then some 3
  else none

/-- Reads a part of a tag, with percent escapes, one character for each escaped byte, and gives it
with the rest of the text. `due` bytes of a sequence are still to come as escapes. -/
def tagText? (inFull : Bool) (due : Nat) : List Char → Option (List Char × List Char)
  | '%' :: high :: low :: rest => do
    let octet ← hexNumber? [high, low]
    let due ←
      match due with
      | 0 => continuationCount? octet
      | due + 1 => if 0x80 ≤ octet && octet < 0xc0 then some due else none
    let (text, rest) ← tagText? inFull due rest
    return (Char.ofNat octet :: text, rest)
  | [] => if due = 0 then some ([], []) else none
  | c :: rest =>
    if c == '%' || due ≠ 0 then none
    else if isTagCharacter inFull c then do
      let (text, rest) ← tagText? inFull 0 rest
      return (c :: text, rest)
    else some ([], c :: rest)

/-- What handles stand for; of several entries for a handle the first one counts. -/
abbrev Handles := List (String × String)

/-- The handles that every document knows. -/
def defaultHandles : Handles :=
  [("!", "!"), ("!!", "tag:yaml.org,2002:")]

/-- The tag of null values. -/
def nullTag : String := "tag:yaml.org,2002:null"

/-- The tag of integers. -/
def integerTag : String := "tag:yaml.org,2002:int"

/-- The tag that says nothing but that there is one. -/
def bareTag : String := "!"

/-- Reads a tag from behind its first mark and gives it with the rest of the text. -/
def tag? (handles : Handles) (text : List Char) : Option (String × List Char) :=
  match text with
  | '<' :: body => do
    let (name, rest) ← tagText? true 0 body
    guard (!name.isEmpty)
    match rest with
    | '>' :: rest => return (String.ofList name, rest)
    | _ => none
  | _ =>
    let word := text.takeWhile isNameCharacter
    match text.dropWhile isNameCharacter with
    | '!' :: body => do
      let (name, rest) ← tagText? false 0 body
      guard (!name.isEmpty)
      let stem ← handles.lookup ("!" ++ String.ofList word ++ "!")
      return (stem ++ String.ofList name, rest)
    | _ => do
      let (name, rest) ← tagText? false 0 text
      if name.isEmpty then return (bareTag, rest)
      let stem ← handles.lookup "!"
      return (stem ++ String.ofList name, rest)

/-- Reads a tag, which a gap has to follow, or a comma between braces. -/
def tagAt? (handles : Handles) (place : Place) (cursor : Cursor) : Option (String × Cursor) := do
  let (name, rest) ← tag? handles (cursor.rest.drop 1)
  let after := cursor.advance (cursor.rest.length - rest.length)
  guard (endsWord after.rest || (place.isBraced && after.sees ','))
  return (name, after)

/-- What the directives of a document say: whether a version was named, and the handles that were
defined. -/
structure Directives where
  isVersioned : Bool := false
  handles : Handles := []

/-- Reads a number of at most nine digits. -/
def versionNumber? (cursor : Cursor) : Option (Nat × Cursor) := do
  let (digits, after) := cursor.takeWhile fun c => '0' ≤ c && c ≤ '9'
  guard (!digits.isEmpty && digits.length ≤ 9)
  let value ← (String.ofList digits).toNat?
  return (value, after)

/-- Reads the handle that a directive defines. -/
def definedHandle? (cursor : Cursor) : Option (String × Cursor) := do
  guard (cursor.sees '!')
  let (word, after) := (cursor.advance 1).takeWhile isNameCharacter
  if after.sees '!' then return ("!" ++ String.ofList word ++ "!", after.advance 1)
  guard word.isEmpty
  return ("!", after)

/-- Reads a directive from behind its mark to the next line: the version, which may be named once
and is one of two, or a handle, which may be defined once. -/
def Directives.read? (directives : Directives) (cursor : Cursor) :
    Option (Directives × Cursor) := do
  let (name, after) := cursor.takeWhile isNameCharacter
  guard (endsWord after.rest)
  let (_, start) := after.takeWhile isBlank
  match String.ofList name with
  | "YAML" =>
    let (major, dot) ← versionNumber? start
    guard (dot.sees '.')
    let (minor, after) ← versionNumber? (dot.advance 1)
    guard (!directives.isVersioned && major == 1 && (minor == 1 || minor == 2))
    let below ← after.endLine?
    return ({ directives with isVersioned := true }, below)
  | "TAG" =>
    let (handle, after) ← definedHandle? start
    guard ((after.rest.head?.map isBlank).getD false)
    let (_, body) := after.takeWhile isBlank
    let (stem, rest) ← tagText? true 0 body.rest
    guard (!stem.isEmpty && endsWord rest && (directives.handles.lookup handle).isNone)
    let below ← (body.advance (body.rest.length - rest.length)).endLine?
    return ({ directives with handles := directives.handles ++ [(handle, String.ofList stem)] },
      below)
  | _ => none

end MeshLight.Document
