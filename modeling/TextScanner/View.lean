import TextScanner.Cursor
import TextScanner.Output
import TextScanner.Table

/-!
# What a scanner shows

A view holds everything a scanner shows of itself: its text, its cursors, its
data and selections, and the names, though not the entries, of its registries.
Routines get views, and dumps and inspected texts are made from them.
-/

namespace TextScanner

/-- The visible part of a scanner. -/
structure View where
  text : String
  cursor : Cursor
  /-- The cursor that undo returns to. -/
  undoCursor : Cursor
  pointers : Table Cursor
  types : List String
  macros : List String
  outputTypes : List String
  comparisonModes : List String
  data : Table Value
  outputType : String
  comparisonMode : String

namespace View

/-- The text before the cursor. -/
def scannedText (view : View) : String :=
  String.ofList (view.cursor.before view.text.toList)

/-- The text from the cursor on. -/
def unscannedText (view : View) : String :=
  String.ofList (view.cursor.after view.text.toList)

/-- Whether the cursor is at the end of the text. -/
def isAtEnd (view : View) : Bool :=
  view.cursor.pos == view.text.length

end View

/-! ## Dumps -/

/-- Blanks after a text up to a width. -/
def padRight (width : Nat) (text : String) : String :=
  text ++ String.ofList (List.replicate (width - text.length) ' ')

/-- A text in quotes, or null. -/
def quoteOrNull (text : Option String) : String :=
  match text with
  | some text => String.ofList (quote text)
  | none => "null"

namespace View

/-- A line of a dump: a label and what belongs to it. -/
def dumpLine (label content : String) : String :=
  "  " ++ padRight 18 (label ++ ":") ++ content ++ "\n"

/-- A part of a dump that lists entries, one on a line. -/
def dumpSection (label : String) (entries : List String) : String :=
  if entries.isEmpty then dumpLine label "\x7b \x7d"
  else
    dumpLine label "\x7b" ++ String.join (entries.map fun entry => "    " ++ entry ++ "\n") ++
      "  \x7d\n"

/-- Names in quotes. -/
def quoteNames (names : List String) : List String :=
  names.map fun name => String.ofList (quote name)

/-- The dump of a scanner: its selections are shown as they are, all other
texts escaped. -/
def dump (view : View) : String :=
  "Scanner \x7b\n" ++
    dumpLine "text" (String.ofList (quote view.text)) ++
    dumpLine "pos" (toString view.cursor.pos) ++
    dumpLine "last_pos" (toString view.cursor.lastPos) ++
    dumpLine "last_match" (quoteOrNull view.cursor.lastMatch) ++
    dumpLine "output_type" ("\"" ++ view.outputType ++ "\"") ++
    dumpLine "comparison_mode" ("\"" ++ view.comparisonMode ++ "\"") ++
    dumpSection "pointers" (view.pointers.toList.map fun (name, cursor) =>
      padRight 4 (toString cursor.pos) ++ " @ " ++ String.ofList (quote name)) ++
    dumpSection "types" (quoteNames view.types) ++
    dumpSection "macros" (quoteNames view.macros) ++
    dumpSection "output_types" (quoteNames view.outputTypes) ++
    dumpSection "comparison_modes" (quoteNames view.comparisonModes) ++
    dumpSection "data" (quoteNames view.data.names) ++
    "\x7d"

end View

/-- The dump of an outcome with its scanner. -/
def AdvancedOutput.dump (output : AdvancedOutput View) : String :=
  let outcome := output.outcome
  let orNull (text : Option String) : String := text.getD "null"
  "AdvancedOutput \x7b\n" ++
    "  parent:       Scanner \x7b\n" ++
    "    text: " ++ String.ofList (quote output.parent.text) ++ "\n" ++
    "    pos:  " ++ toString output.parent.cursor.pos ++ "\n" ++
    "  \x7d\n" ++
    "  matched:      " ++ inspectBool outcome.matched ++ "\n" ++
    "  kind:         " ++
      orNull (outcome.kind.map fun kind => "\"" ++ kind.display ++ "\"") ++ "\n" ++
    "  key:          " ++ orNull (outcome.key.map ScanOption.display) ++ "\n" ++
    "  result:       " ++ orNull (outcome.result.map Value.display) ++ "\n" ++
    "  text_matched: " ++ quoteOrNull outcome.text ++ "\n" ++
    "\x7d"

/-! ## Inspection -/

/-- The inspected text of a cursor. -/
def Cursor.inspect (cursor : Cursor) : String :=
  inspectRecord "ScannerState" [
    ("pos", toString cursor.pos),
    ("last_pos", toString cursor.lastPos),
    ("last_match", inspectOption (cursor.lastMatch.map inspectText)),
    ("offset", toString cursor.offset)]

/-- The inspected text of a scanner. -/
def View.inspect (view : View) : String :=
  let names (names : List String) : String := inspectBraces (names.map inspectText)
  inspectRecord "Scanner" [
    ("text", inspectText view.text),
    ("char_len", toString view.text.length),
    ("state", view.cursor.inspect),
    ("last_state", view.undoCursor.inspect),
    ("pointers", inspectBraces (view.pointers.toList.map fun (name, cursor) =>
      inspectText name ++ ": " ++ cursor.inspect)),
    ("types", names view.types),
    ("macros", names view.macros),
    ("output_types", names view.outputTypes),
    ("comparison_modes", names view.comparisonModes),
    ("data", inspectBraces (Value.inspectMembers view.data.toList)),
    ("output_type", inspectText view.outputType),
    ("comparison_mode", inspectText view.comparisonMode)]

/-- The inspected text of an outcome with its scanner. -/
def AdvancedOutput.inspect (output : AdvancedOutput View) : String :=
  inspectRecord "AdvancedOutput" [
    ("pos", toString output.parent.cursor.pos),
    ("outcome", output.outcome.inspect)]

end TextScanner
