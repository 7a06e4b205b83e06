import TextScanner.Json.Reader
import TextScanner.Scanner
import TextScanner.Stored.Number

/-!
# Reading stored forms

The readers of one library (`compact`).  Stored forms are read from JSON documents.
A constructor that carries nothing may be written alone or as a member that is null.
The fields of a cursor and of options may come in any order or, as an array, in their
own; members of other names are passed over, and a field that comes twice is a fault.
Options take the normal modes for what is missing, and a cursor may lack the text it
consumed last, as a member only.

Everything that is read may be nested to a limited depth; what is passed over
may be nested at will.
-/

namespace TextScanner.Stored

open TextScanner (Json)

/-- How deep arrays and objects may be nested. -/
def depthLimit : Nat := 127

/-! ## Parts -/

def text? : Json → Option String
  | .string text => text
  | _ => none

def boolean? : Json → Option Bool
  | .boolean flag => some flag
  | _ => none

/-- A number, or one of the whole numbers that a document can hold. -/
def float? : Json → Option Float
  | .number numeral => number? numeral
  | _ => none

/-- A whole number below `2 ^ 64`. -/
def word? : Json → Option Nat
  | .number numeral => numeral.toNat?.filter (· < Nat.pow 2 64)
  | _ => none

/-- A text, or null for none. -/
def optionalText? : Json → Option (Option String)
  | .null => some none
  | document => (text? document).map some

/-- The constructor that a document names, and what it carries; one that is
written alone carries null. -/
def tagged? : Json → Option (String × Option Json)
  | .string (some tag) => some (tag, none)
  | .object [(some tag, content)] => some (tag, some content)
  | _ => none

/-- Whether a constructor carries nothing. -/
def carriesNothing : Option Json → Bool
  | none | some .null => true
  | _ => false

/-! ## Values -/

mutual

/-- The value that a document stores, read to a depth.  A constructor with
what it carries takes one level, and so does an array or an object. -/
def value? : (depth : Nat) → Json → Option Value
  | _, .string (some "Null") => some .null
  | depth + 1, .object [(tag, content)] =>
      match tag with
      | some "Null" => if carriesNothing (some content) then some .null else none
      | some "Boolean" => (boolean? content).map .boolean
      | some "Number" => (float? content).map .number
      | some "String" => (text? content).map .string
      | some "Array" =>
          match depth, content with
          | depth + 1, .array items => (items? depth items).map .array
          | _, _ => none
      | some "Object" =>
          match depth, content with
          | depth + 1, .object members =>
              (members? depth members).map fun members => .ofTable (.ofList members)
          | _, _ => none
      | _ => none
  | _, _ => none

/-- The values that the items of an array store. -/
def items? : (depth : Nat) → List Json → Option (List Value)
  | _, [] => some []
  | depth, item :: rest =>
      match value? depth item, items? depth rest with
      | some item, some rest => some (item :: rest)
      | _, _ => none

/-- The values that the members of an object store. -/
def members? : (depth : Nat) → List (Option String × Json) → Option (List (String × Value))
  | _, [] => some []
  | depth, (name, item) :: rest =>
      match name, value? depth item, members? depth rest with
      | some name, some item, some rest => some ((name, item) :: rest)
      | _, _, _ => none

end

/-! ## Kinds -/

/-- The kind that a document stores. -/
def kind? (document : Json) : Option MatchKind :=
  match tagged? document with
  | some ("String", content) => if carriesNothing content then some .literal else none
  | some ("Regex", content) => if carriesNothing content then some .pattern else none
  | some ("Enum", content) => if carriesNothing content then some .enumeration else none
  | some ("Type", some content) => (text? content).map .type
  | _ => none

/-! ## Fields -/

/-- The one member of a name, if there is one; none if there are several. -/
def field? (name : String) (members : List (Option String × Json)) :
    Option (Option Json) :=
  match members.filter fun member => member.1 == some name with
  | [] => some none
  | [member] => some (some member.2)
  | _ => none

/-- Whether every member has a name that denotes a text. -/
def named (members : List (Option String × Json)) : Bool :=
  members.all fun member => member.1.isSome

/-- A field that may be missing. -/
def fieldOr {α : Type} (missing : Option α) (read : Json → Option α) : Option Json → Option α
  | none => missing
  | some document => read document

/-- The options that a document stores. -/
def options? : Json → Option ScannerOptions
  | .object members => do
      guard (named members)
      let outputType ← field? "output_type" members
      let comparisonMode ← field? "comparison_mode" members
      return {
        outputType := ← fieldOr (some OutputFormat.normalName) text? outputType
        comparisonMode := ← fieldOr (some ComparisonMode.normalName) text? comparisonMode }
  | .array items => do
      guard (items.length ≤ 2)
      return {
        outputType := ← fieldOr (some OutputFormat.normalName) text? items[0]?
        comparisonMode := ← fieldOr (some ComparisonMode.normalName) text? items[1]? }
  | _ => none

/-- The cursor that a document stores. -/
def cursor? : Json → Option Cursor
  | .object members => do
      guard (named members)
      let pos ← field? "pos" members
      let lastPos ← field? "last_pos" members
      let lastMatch ← field? "last_match" members
      let offset ← field? "offset" members
      return {
        pos := ← fieldOr none word? pos
        lastPos := ← fieldOr none word? lastPos
        lastMatch := ← fieldOr (some none) optionalText? lastMatch
        offset := ← fieldOr none word? offset }
  | .array [pos, lastPos, lastMatch, offset] => do
      return {
        pos := ← word? pos
        lastPos := ← word? lastPos
        lastMatch := ← optionalText? lastMatch
        offset := ← word? offset }
  | _ => none

/-! ## Texts -/

/-- Read a value from its stored text. -/
def readValue? (text : String) : Option Value :=
  (Json.read? text).bind (value? depthLimit)

/-- Read a cursor from its stored text. -/
def readCursor? (text : String) : Option Cursor :=
  (Json.read? text).bind cursor?

/-- Read options from their stored text. -/
def readOptions? (text : String) : Option ScannerOptions :=
  (Json.read? text).bind options?

/-- Read a kind from its stored text. -/
def readKind? (text : String) : Option MatchKind :=
  (Json.read? text).bind kind?

end TextScanner.Stored
