/-!
# Cursors

A document is read from front to back by a cursor, which knows the line and the column of what comes
next: indentation decides what belongs together, and a key has to end on the line where it began.
-/

namespace MeshLight.Document

/-- Whether a character ends a line. -/
def isBreak (c : Char) : Bool :=
  c == '\n' || c == '\r' || c == '\u0085' || c == '\u2028' || c == '\u2029'

/-- Whether a character is a space or a tab. -/
def isBlank (c : Char) : Bool :=
  c == ' ' || c == '\t'

/-- Whether a character may stand in a document: no control characters and no noncharacters of the
first plane's end. -/
def isAllowed (c : Char) : Bool :=
  c == '\t' || c == '\n' || c == '\r' || c == '\u0085' || (' ' ≤ c && c ≤ '~') ||
    ('\u00a0' ≤ c && c ≤ '\ufffd') || 0x10000 ≤ c.toNat

/-- Whether a word has to end here: at a blank, a line end or the end of the document. -/
def endsWord : List Char → Bool
  | [] => true
  | c :: _ => isBlank c || isBreak c

/-- A place in a document, with the text from there on. The line is the number of lines before this
one, the column that of characters before the place in its line, and the offset that of characters
before it in the document. -/
structure Cursor where
  rest : List Char
  line : Nat := 0
  column : Nat := 0
  offset : Nat := 0

namespace Cursor

/-- Takes a character. A carriage return with its line feed is one line end, and every line end of a
single byte or of the first Latin block is read as a line feed. -/
def next? (cursor : Cursor) : Option (Char × Cursor) :=
  match cursor.rest with
  | [] => none
  | '\r' :: '\n' :: rest =>
    some ('\n', { rest, line := cursor.line + 1, column := 0, offset := cursor.offset + 2 })
  | c :: rest =>
    if isBreak c then
      some (if c == '\u2028' || c == '\u2029' then c else '\n',
        { rest, line := cursor.line + 1, column := 0, offset := cursor.offset + 1 })
    else
      some (c, { cursor with rest, column := cursor.column + 1, offset := cursor.offset + 1 })

/-- Taking a character leaves less to read. -/
theorem length_of_next? {cursor after : Cursor} {c : Char} (h : cursor.next? = some (c, after)) :
    after.rest.length < cursor.rest.length := by
  unfold next? at h
  split at h
  · simp at h
  · next rest same =>
    simp only [Option.some.injEq, Prod.mk.injEq] at h
    rw [← h.2, same]
    simp only [List.length_cons]
    omega
  · next first rest _ same =>
    split at h <;>
    · simp only [Option.some.injEq, Prod.mk.injEq] at h
      rw [← h.2, same]
      simp

/-- Skips a number of characters. -/
def advance : Nat → Cursor → Cursor
  | 0, cursor => cursor
  | count + 1, cursor =>
    match cursor.next? with
    | some (_, after) => after.advance count
    | none => cursor

/-- Skipping never adds to what is left. -/
theorem length_advance (count : Nat) (cursor : Cursor) :
    (cursor.advance count).rest.length ≤ cursor.rest.length := by
  induction count generalizing cursor with
  | zero => exact Nat.le_refl _
  | succ count ih =>
    unfold advance
    split
    · next after taken => exact Nat.le_trans (ih after) (Nat.le_of_lt (length_of_next? taken))
    · exact Nat.le_refl _

/-- Whether nothing is left. -/
def isAtEnd (cursor : Cursor) : Bool :=
  cursor.rest.isEmpty

/-- Whether a character comes next. -/
def sees (cursor : Cursor) (c : Char) : Bool :=
  cursor.rest.head? == some c

/-- Whether an indicator comes next, a character that stands for itself only in front of a gap. -/
def seesIndicator (cursor : Cursor) (c : Char) : Bool :=
  cursor.sees c && endsWord cursor.rest.tail

/-- Whether a line of three equal marks begins here. -/
def seesTriple (cursor : Cursor) (mark : Char) : Bool :=
  cursor.column == 0 && [mark, mark, mark].isPrefixOf cursor.rest && endsWord (cursor.rest.drop 3)

/-- Whether the line here begins or ends a document. -/
def seesMarker (cursor : Cursor) : Bool :=
  cursor.seesTriple '-' || cursor.seesTriple '.'

/-- Reads the characters that satisfy a condition. -/
def takeWhile (condition : Char → Bool) (cursor : Cursor) : List Char × Cursor :=
  let taken := cursor.rest.takeWhile condition
  (taken, cursor.advance taken.length)

/-- Skips what stands between two tokens: spaces, line ends and comments. Between braces tabs are
skipped as well; elsewhere only until the line ends, and only if `tabs` says so. A tab that cannot
be skipped is refused. A byte order mark counts for nothing at the beginning of a line but takes a
column. -/
def toToken? (braced tabs : Bool) (cursor : Cursor) (inComment : Bool := false) : Option Cursor :=
  match _taken : cursor.next? with
  | none => some cursor
  | some (c, after) =>
    if isBreak c then after.toToken? braced false
    else if inComment || c == '#' then after.toToken? braced tabs true
    else if c == ' ' || (c == '\ufeff' && cursor.column == 0) then after.toToken? braced tabs
    else if c == '\t' then if braced || tabs then after.toToken? braced tabs else none
    else some cursor
termination_by cursor.rest.length
decreasing_by all_goals exact length_of_next? _taken

/-- Goes to the next line if only blanks and a comment are left in this one. -/
def endLine? (cursor : Cursor) : Option Cursor :=
  let (_, afterBlanks) := cursor.takeWhile isBlank
  let (_, atEnd) :=
    if afterBlanks.sees '#' then afterBlanks.takeWhile (!isBreak ·) else ([], afterBlanks)
  match atEnd.next? with
  | none => some atEnd
  | some (c, after) => if isBreak c then some after else none

end Cursor

end MeshLight.Document
