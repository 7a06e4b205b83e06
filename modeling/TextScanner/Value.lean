import TextScanner.Decimal.Notation
import TextScanner.Table
import TextScanner.Text.Escaped
import TextScanner.Text.Inspected

/-!
# Values

A scanner passes values around without looking into them: what enum options
report, the arguments of types and macros, the entries of the data store.
They are shaped like JSON documents.

The members of an object are listed by strictly increasing name; objects are
built from tables, which keep that order.
-/

namespace TextScanner

/-- A dynamic value. -/
inductive Value where
  | null
  | boolean (flag : Bool)
  | number (quantity : Float)
  | string (text : String)
  | array (items : List Value)
  | object (members : List (String × Value))
  deriving Inhabited

namespace Value

/-- The object with the entries of a table. -/
def ofTable (members : Table Value) : Value :=
  .object members.toList

def isNull : Value → Bool
  | .null => true
  | _ => false

def isString : Value → Bool
  | .string _ => true
  | _ => false

/-- The text of a string value. -/
def asString? : Value → Option String
  | .string text => some text
  | _ => none

/-- The number of a number value. -/
def asNumber? : Value → Option Float
  | .number quantity => some quantity
  | _ => none

/-- The items of an array. -/
def asArray? : Value → Option (List Value)
  | .array items => some items
  | _ => none

/-- Whether a number occurs in a value. -/
inductive Holds (quantity : Float) : Value → Prop
  | number : Holds quantity (.number quantity)
  | array {items : List Value} {item : Value} (listed : item ∈ items)
      (holds : Holds quantity item) : Holds quantity (.array items)
  | object {members : List (String × Value)} {member : String × Value}
      (listed : member ∈ members) (holds : Holds quantity member.2) :
      Holds quantity (.object members)

/-! ## Equality

Numbers are compared as numbers: both zeros are equal, and a number that is
none equals nothing.
-/

mutual

/-- Whether two values are equal. -/
def equal : Value → Value → Bool
  | .null, .null => true
  | .boolean left, .boolean right => left == right
  | .number left, .number right => left == right
  | .string left, .string right => left == right
  | .array left, .array right => equalItems left right
  | .object left, .object right => equalMembers left right
  | _, _ => false

/-- Whether two sequences have equal items. -/
def equalItems : List Value → List Value → Bool
  | [], [] => true
  | left :: lefts, right :: rights => equal left right && equalItems lefts rights
  | _, _ => false

/-- Whether two objects have equal members. -/
def equalMembers : List (String × Value) → List (String × Value) → Bool
  | [], [] => true
  | (leftName, left) :: lefts, (rightName, right) :: rights =>
      leftName == rightName && equal left right && equalMembers lefts rights
  | _, _ => false

end

instance : BEq Value := ⟨equal⟩

/-! ## Display

Values are displayed as JSON documents without blanks.
-/

mutual

/-- The displayed characters of a value. -/
def displayChars : Value → List Char
  | .null => ['n', 'u', 'l', 'l']
  | .boolean true => ['t', 'r', 'u', 'e']
  | .boolean false => ['f', 'a', 'l', 's', 'e']
  | .number quantity => (Notation.plain.write quantity).toList
  | .string text => quote text
  | .array items => '[' :: (displayItems items ++ [']'])
  | .object members => '\x7b' :: (displayMembers members ++ ['\x7d'])

/-- Items with commas between them. -/
def displayItems : List Value → List Char
  | [] => []
  | [item] => displayChars item
  | item :: next :: rest => displayChars item ++ ',' :: displayItems (next :: rest)

/-- Members with commas between them. -/
def displayMembers : List (String × Value) → List Char
  | [] => []
  | [(name, value)] => quote name ++ ':' :: displayChars value
  | (name, value) :: next :: rest =>
      quote name ++ ':' :: (displayChars value ++ ',' :: displayMembers (next :: rest))

end

/-- The displayed text of a value. -/
def display (value : Value) : String :=
  String.ofList value.displayChars

/-! ## Inspection -/

mutual

/-- The inspected text of a value. -/
def inspect : Value → String
  | .null => "Null"
  | .boolean flag => "Boolean(" ++ inspectBool flag ++ ")"
  | .number quantity => "Number(" ++ Notation.inspected.write quantity ++ ")"
  | .string text => "String(" ++ inspectText text ++ ")"
  | .array items => "Array(" ++ inspectList (inspectItems items) ++ ")"
  | .object members => "Object(" ++ inspectBraces (inspectMembers members) ++ ")"

def inspectItems : List Value → List String
  | [] => []
  | item :: rest => inspect item :: inspectItems rest

/-- Members as `"name": value`. -/
def inspectMembers : List (String × Value) → List String
  | [] => []
  | (name, value) :: rest => (inspectText name ++ ": " ++ inspect value) :: inspectMembers rest

end

end Value

/-- An absent value is null. -/
def Value.ofOption : Option Value → Value
  | some value => value
  | none => .null

end TextScanner
