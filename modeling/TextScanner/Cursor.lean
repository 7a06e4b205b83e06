import TextScanner.Text.Bytes

/-!
# Cursors

A cursor counts the characters before it and keeps the byte offset of that
place, so that the text can be cut without counting again.  It also remembers
where the latest movement started and the text that was consumed last.

Movements are clamped to the text.  The offset is moved along with the count:
forward by the bytes of the characters passed, backward to the bytes that
remain before the cursor.
-/

namespace TextScanner

/-- A place in a text. -/
structure Cursor where
  /-- The number of characters before the cursor. -/
  pos : Nat
  /-- The position before the latest movement. -/
  lastPos : Nat
  /-- The text that was consumed last. -/
  lastMatch : Option String
  /-- The number of bytes before the cursor. -/
  offset : Nat
  deriving DecidableEq, Repr, Inhabited

namespace Cursor

/-- The cursor before the first character, with nothing consumed. -/
def start : Cursor where
  pos := 0
  lastPos := 0
  lastMatch := none
  offset := 0

/-- The text before a cursor. -/
def before (cursor : Cursor) (chars : List Char) : List Char :=
  takeBytes cursor.offset chars

/-- The text from a cursor on. -/
def after (cursor : Cursor) (chars : List Char) : List Char :=
  dropBytes cursor.offset chars

/-- Pass a number of characters forward, at most to the end. -/
def forward (chars : List Char) (count : Nat) (cursor : Cursor) : Cursor :=
  let steps := min count (chars.length - cursor.pos)
  { cursor with
    pos := cursor.pos + steps
    offset := cursor.offset + byteLength ((cursor.after chars).take steps) }

/-- Pass a number of characters backward, at most to the start. -/
def backward (chars : List Char) (count : Nat) (cursor : Cursor) : Cursor :=
  let steps := min count cursor.pos
  let passed := cursor.before chars
  { cursor with
    pos := cursor.pos - steps
    offset := byteLength (passed.take (passed.length - steps)) }

/-- Move by a distance, forward if it is not negative. -/
def shift (chars : List Char) (distance : Int) (cursor : Cursor) : Cursor :=
  if 0 ≤ distance then cursor.forward chars distance.natAbs
  else cursor.backward chars distance.natAbs

/-- Move to a position, walking from where the cursor is. -/
def seek (chars : List Char) (position : Int) (cursor : Cursor) : Cursor :=
  let target := min position.toNat chars.length
  if cursor.pos ≤ target then cursor.forward chars (target - cursor.pos)
  else cursor.backward chars (cursor.pos - target)

end Cursor

end TextScanner
