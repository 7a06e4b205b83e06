import TextScanner.Json.Writer
import TextScanner.Scanner

/-!
# Writing stored forms

The writers of one library (`compact`).  Values, cursors, options and kinds are
stored as JSON documents without blanks.  A value and a kind carry the name of
their constructor: alone if there is nothing else to tell, else as the only member
of an object.  The fields of a cursor and of options are members in a fixed order.
-/

namespace TextScanner.Stored

open Json (writeArray writeMember writeNat writeObject)

/-- A character of a stored text.  Only quotes, backslashes and the first block
of controls are escaped. -/
def writeChar (char : Char) : List Char :=
  if char = '"' then ['\\', '"']
  else if char = '\\' then ['\\', '\\']
  else if char = '\x08' then ['\\', 'b']
  else if char = '\t' then ['\\', 't']
  else if char = '\n' then ['\\', 'n']
  else if char = '\x0c' then ['\\', 'f']
  else if char = '\r' then ['\\', 'r']
  else if char.toNat < 0x20 then '\\' :: 'u' :: fourHexDigits 'a' char.toNat
  else [char]

/-- A text in quotes. -/
def writeText (text : String) : List Char :=
  '"' :: (text.toList.flatMap writeChar ++ ['"'])

/-- A number; those that are not finite are null. -/
def writeNumber (number : Float) : List Char :=
  if number.isFinite then (Notation.stored.write number).toList else "null".toList

/-- A constructor with what it carries. -/
def writeTagged (tag : String) (content : List Char) : List Char :=
  writeObject [writeMember (writeText tag) content]

mutual

/-- The stored form of a value. -/
def writeValue : Value → List Char
  | .null => writeText "Null"
  | .boolean flag => writeTagged "Boolean" (if flag then "true" else "false").toList
  | .number quantity => writeTagged "Number" (writeNumber quantity)
  | .string text => writeTagged "String" (writeText text)
  | .array items => writeTagged "Array" (writeArray (writeItems items))
  | .object members => writeTagged "Object" (writeObject (writeMembers members))

def writeItems : List Value → List (List Char)
  | [] => []
  | item :: rest => writeValue item :: writeItems rest

def writeMembers : List (String × Value) → List (List Char)
  | [] => []
  | (name, value) :: rest => writeMember (writeText name) (writeValue value) :: writeMembers rest

end

/-- The stored form of a cursor. -/
def writeCursor (cursor : Cursor) : List Char :=
  writeObject [
    writeMember (writeText "pos") (writeNat cursor.pos),
    writeMember (writeText "last_pos") (writeNat cursor.lastPos),
    writeMember (writeText "last_match")
      (match cursor.lastMatch with
        | some text => writeText text
        | none => "null".toList),
    writeMember (writeText "offset") (writeNat cursor.offset)]

/-- The stored form of options. -/
def writeOptions (options : ScannerOptions) : List Char :=
  writeObject [
    writeMember (writeText "output_type") (writeText options.outputType),
    writeMember (writeText "comparison_mode") (writeText options.comparisonMode)]

/-- The stored form of a kind. -/
def writeKind : MatchKind → List Char
  | .literal => writeText "String"
  | .pattern => writeText "Regex"
  | .enumeration => writeText "Enum"
  | .type name => writeTagged "Type" (writeText name)

end TextScanner.Stored
