import TextScanner.Error
import TextScanner.Pattern
import TextScanner.Value

/-!
# Scan options

A scanner tries options at its cursor: literals, patterns, registered types,
and enums, which match like their key and report a value of their own.  The
key of an enum is any other option; keys are a type of their own, so an enum in
an enum cannot be built.  Turning an option into a key fails for enums only
(`ScanOption.toKey?_cases`).
-/

namespace TextScanner

/-- A reference to a registered type, with arguments for it. -/
structure TypeRef where
  name : String
  args : List Value := []

/-- What an enum option matches. -/
inductive EnumKey where
  | literal (text : String)
  | pattern (pattern : Pattern)
  | type (reference : TypeRef)

/-- A candidate that is tried at the cursor. -/
inductive ScanOption where
  | literal (text : String)
  | pattern (pattern : Pattern)
  | type (reference : TypeRef)
  /-- Matches like its key and reports a value. -/
  | enumeration (key : EnumKey) (value : Value)

namespace TypeRef

instance : BEq TypeRef :=
  ⟨fun left right => left.name == right.name && Value.equalItems left.args right.args⟩

/-- The name and the arguments in brackets. -/
def display (reference : TypeRef) : String :=
  "[" ++ reference.name ++ String.join (reference.args.map fun arg => ", " ++ arg.display) ++ "]"

def inspect (reference : TypeRef) : String :=
  inspectRecord "TypeRef" [("name", inspectText reference.name),
    ("args", inspectList (Value.inspectItems reference.args))]

end TypeRef

namespace EnumKey

/-- The option that a key is. -/
def toOption : EnumKey → ScanOption
  | literal text => .literal text
  | pattern expression => .pattern expression
  | type reference => .type reference

def equal : EnumKey → EnumKey → Bool
  | literal left, literal right => left == right
  | pattern left, pattern right => left == right
  | type left, type right => left == right
  | _, _ => false

instance : BEq EnumKey := ⟨equal⟩

/-- A literal in quotes, a pattern in slashes, a type in brackets. -/
def display : EnumKey → String
  | literal text => String.ofList (quote text)
  | pattern expression => expression.display
  | type reference => reference.display

def inspect : EnumKey → String
  | literal text => "String(" ++ inspectText text ++ ")"
  | pattern expression => "Pattern(" ++ expression.inspect ++ ")"
  | type reference => "Type(" ++ reference.inspect ++ ")"

end EnumKey

namespace ScanOption

/-- The key that an option can be. -/
def toKey? : ScanOption → Except ScannerError EnumKey
  | literal text => .ok (.literal text)
  | pattern expression => .ok (.pattern expression)
  | type reference => .ok (.type reference)
  | enumeration _ _ => .error .nestedEnum

/-- The enum option with an option as its key. -/
def enumerate? (key : ScanOption) (value : Value) : Except ScannerError ScanOption :=
  key.toKey?.map fun key => .enumeration key value

@[simp]
theorem toKey?_toOption (key : EnumKey) : key.toOption.toKey? = .ok key := by
  cases key <;> rfl

/-- An option is a key or an enum. -/
theorem toKey?_cases (option : ScanOption) :
    (∃ key, option = key.toOption ∧ option.toKey? = .ok key) ∨
      ∃ key value, option = .enumeration key value ∧ option.toKey? = .error .nestedEnum := by
  cases option with
  | literal text => exact Or.inl ⟨.literal text, rfl, rfl⟩
  | pattern expression => exact Or.inl ⟨.pattern expression, rfl, rfl⟩
  | type reference => exact Or.inl ⟨.type reference, rfl, rfl⟩
  | enumeration key value => exact Or.inr ⟨key, value, rfl, rfl⟩

def equal : ScanOption → ScanOption → Bool
  | literal left, literal right => left == right
  | pattern left, pattern right => left == right
  | type left, type right => left == right
  | enumeration leftKey left, enumeration rightKey right => leftKey == rightKey && left == right
  | _, _ => false

instance : BEq ScanOption := ⟨equal⟩

/-- A plain option like the key it can be, an enum as its key and its value in
brackets. -/
def display : ScanOption → String
  | literal text => String.ofList (quote text)
  | pattern expression => expression.display
  | type reference => reference.display
  | enumeration key value => "[" ++ key.display ++ ", " ++ value.display ++ "]"

def inspect : ScanOption → String
  | literal text => "String(" ++ inspectText text ++ ")"
  | pattern expression => "Pattern(" ++ expression.inspect ++ ")"
  | type reference => "Type(" ++ reference.inspect ++ ")"
  | enumeration key value =>
      "Enum(" ++ inspectRecord "EnumOption" [("key", key.inspect), ("value", value.inspect)] ++ ")"

end ScanOption

end TextScanner
