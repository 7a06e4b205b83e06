import TextScanner.Logged
import TextScanner.Script

/-!
# Scanners

A scanner is a text with a cursor, the cursor before the latest movement, named
cursors, the registries that extend what can be matched, and a store of data.
The text never changes.

This module holds the operations that do not match anything.  An operation that
fails returns no scanner, so whoever calls it keeps the one they had.
-/

namespace TextScanner

/-- A positional text scanner. -/
structure Scanner where
  text : String
  cursor : Cursor
  /-- The cursor before the latest movement, which undo returns to. -/
  undoCursor : Cursor
  pointers : Table Cursor
  types : Table Routine
  macros : Table Routine
  outputTypes : Table OutputFormat
  comparisonModes : Table ComparisonMode
  data : Table Value
  /-- The name of the active output type. -/
  outputType : String
  /-- The name of the active comparison mode. -/
  comparisonMode : String

/-- The modes that a scanner starts with. -/
structure ScannerOptions where
  outputType : String := OutputFormat.normalName
  comparisonMode : String := ComparisonMode.normalName
  deriving DecidableEq, Repr

namespace Scanner

/-- A scanner at the start of a text, with nothing registered but what is built
in. -/
def new (text : String) : Scanner where
  text := text
  cursor := .start
  undoCursor := .start
  pointers := .empty
  types := .empty
  macros := .empty
  outputTypes := .ofList OutputFormat.builtins
  comparisonModes := .ofList ComparisonMode.builtins
  data := .empty
  outputType := OutputFormat.normalName
  comparisonMode := ComparisonMode.normalName

/-! ## What a scanner shows -/

/-- Everything a scanner shows of itself. -/
def view (scanner : Scanner) : View where
  text := scanner.text
  cursor := scanner.cursor
  undoCursor := scanner.undoCursor
  pointers := scanner.pointers
  types := scanner.types.names
  macros := scanner.macros.names
  outputTypes := scanner.outputTypes.names
  comparisonModes := scanner.comparisonModes.names
  data := scanner.data
  outputType := scanner.outputType
  comparisonMode := scanner.comparisonMode

/-- The text before the cursor. -/
def scannedText (scanner : Scanner) : String :=
  String.ofList (scanner.cursor.before scanner.text.toList)

/-- The text from the cursor on. -/
def unscannedText (scanner : Scanner) : String :=
  String.ofList (scanner.cursor.after scanner.text.toList)

/-- Whether the cursor is at the end of the text. -/
def isAtEnd (scanner : Scanner) : Bool :=
  scanner.cursor.pos == scanner.text.length

/-! ## Movements -/

/-- Put the cursor elsewhere, so that undo returns to where it was. -/
def moveCursor (scanner : Scanner) (change : Cursor → Cursor) : Scanner :=
  { scanner with cursor := change scanner.cursor, undoCursor := scanner.cursor }

/-- A cursor that remembers its position as that before a movement. -/
def departing (cursor : Cursor) : Cursor :=
  { cursor with lastPos := cursor.pos }

/-- Move the cursor by a number of characters, within the text. -/
def moveBy (scanner : Scanner) (distance : Int) : Scanner :=
  scanner.moveCursor fun cursor => (departing cursor).shift scanner.text.toList distance

/-- Move the cursor to a position, within the text. -/
def moveTo (scanner : Scanner) (position : Int) : Scanner :=
  scanner.moveCursor fun cursor => (departing cursor).seek scanner.text.toList position

/-- Move the cursor over as many characters as a text has, and remember the
text as consumed. -/
def advanceOver (scanner : Scanner) (matched : String) : Logged Scanner :=
  let moved := scanner.moveBy matched.length
  .note (.advanced moved.cursor.pos matched)
    { moved with cursor := { moved.cursor with lastMatch := some matched } }

/-- Exchange the cursor and the one before the latest movement. -/
def undo (scanner : Scanner) : Logged Scanner :=
  .note (.undone scanner.undoCursor.pos)
    { scanner with cursor := scanner.undoCursor, undoCursor := scanner.cursor }

/-- Return to the start.  A full reset also forgets pointers, types, macros and
data and selects the normal modes; registered modes stay. -/
def reset (scanner : Scanner) (full : Bool) : Logged Scanner :=
  let rewound := { scanner with cursor := .start, undoCursor := .start }
  .note (.wasReset full)
    (if full then
      { rewound with
        pointers := .empty
        types := .empty
        macros := .empty
        data := .empty
        outputType := OutputFormat.normalName
        comparisonMode := ComparisonMode.normalName }
    else rewound)

/-! ## Pointers -/

/-- Save the cursor under a name. -/
def savePointer (scanner : Scanner) (name : String) : Logged Scanner :=
  .note (.pointerSaved name scanner.cursor.pos)
    { scanner with pointers := scanner.pointers.insert name scanner.cursor }

/-- Return to the cursor saved under a name; this can be undone. -/
def loadPointer (scanner : Scanner) (name : String) : Attempt Scanner :=
  match scanner.pointers.find? name with
  | none => .fail (.unknownPointer name)
  | some saved =>
      .note (.pointerLoaded name saved.pos) (scanner.moveCursor fun _ => saved)

/-! ## Registries -/

/-- Register a type, replacing any type of that name. -/
def addType (scanner : Scanner) (name : String) (body : Routine) : Logged Scanner :=
  .note (.typeRegistered name) { scanner with types := scanner.types.insert name body }

/-- Remove a type. -/
def removeType (scanner : Scanner) (name : String) : Attempt Scanner :=
  if scanner.types.contains name then
    .note (.typeRemoved name) { scanner with types := scanner.types.erase name }
  else .fail (.unknownType name)

/-- Register a macro, replacing any macro of that name. -/
def addMacro (scanner : Scanner) (name : String) (body : Routine) : Logged Scanner :=
  .note (.macroRegistered name) { scanner with macros := scanner.macros.insert name body }

/-- Remove a macro. -/
def removeMacro (scanner : Scanner) (name : String) : Attempt Scanner :=
  if scanner.macros.contains name then
    .note (.macroRemoved name) { scanner with macros := scanner.macros.erase name }
  else .fail (.unknownMacro name)

/-- Register an output type.  Those that are built in are not replaced. -/
def addOutputType (scanner : Scanner) (name : String) (render : Outcome → Value) :
    Logged Scanner :=
  if OutputFormat.isBuiltin name then .note (.outputTypeKept name) scanner
  else
    .note (.outputTypeRegistered name)
      { scanner with outputTypes := scanner.outputTypes.insert name (.custom render) }

/-- Select the output type. -/
def setOutputType (scanner : Scanner) (name : String) : Attempt Scanner :=
  if scanner.outputTypes.contains name then
    .note (.outputTypeSet name) { scanner with outputType := name }
  else .fail (.unknownOutputType name)

/-- Register a comparison mode, replacing any mode of that name. -/
def addComparisonMode (scanner : Scanner) (name : String) (mode : ComparisonMode) :
    Logged Scanner :=
  .note (.comparisonModeRegistered name)
    { scanner with comparisonModes := scanner.comparisonModes.insert name mode }

/-- Select the comparison mode. -/
def setComparisonMode (scanner : Scanner) (name : String) : Attempt Scanner :=
  if scanner.comparisonModes.contains name then
    .note (.comparisonModeSet name) { scanner with comparisonMode := name }
  else .fail (.unknownComparisonMode name)

/-- A scanner with modes selected from the start. -/
def withOptions (text : String) (options : ScannerOptions) : Attempt Scanner :=
  ((new text).setOutputType options.outputType).andThen fun scanner =>
    scanner.setComparisonMode options.comparisonMode

end Scanner

end TextScanner
