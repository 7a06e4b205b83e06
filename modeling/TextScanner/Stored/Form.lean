import Mathlib.Data.List.Forall2
import TextScanner.Json.Reader
import TextScanner.Json.Writer
import TextScanner.Scanner

/-!
# Stored forms

Values, cursors, options and kinds are stored as JSON.  The program only declares
how they are made up: the constructors of a type and what they carry, or its fields
in their order and what is taken for a field that is missing.  Writing and reading
are the work of a library, which is not known here.  What is relied on is what it
documents (`Library.Documented`):

* a constructor is stored under its tag, alone if it carries nothing, else as the only
  member of an object, and fields are the members of an object in their order;
* texts are JSON strings, whole numbers are written in digits, sequences are arrays
  and tables are objects, all without blanks;
* a text is read as the JSON document that it holds, whoever wrote it, and what comes
  of it is made up of parts that were read in the same way.
-/

namespace TextScanner.Stored

/-- How the things of a type are stored. -/
structure Form (α : Type) where
  /-- The text that something is written as. -/
  write : α → List Char
  /-- What a document stores that may be nested to a depth. -/
  read? : (depth : Nat) → Json → Option α

/-! ## Declared types -/

/-- A constructor of a type, under its tag. -/
inductive Constructor (α : Type) : Type 1
  | bare (tag : String) (made : α)
  | carrying {β : Type} (tag : String) (content : Form β) (make : β → α)

/-- A field of a type. -/
structure Field (α : Type) : Type 1 where
  {Content : Type}
  name : String
  form : Form Content
  get : α → Content
  /-- What is taken where the field is missing. -/
  missing : Option Content

/-- A library that stores things: how deep it reads, how it reads a text, and its
forms for the types of the language and for the declared ones. -/
structure Library where
  limit : Nat
  readText? : {α : Type} → Form α → String → Option α
  flag : Form Bool
  word : Form Nat
  number : Form Float
  text : Form String
  optional : {α : Type} → Form α → Form (Option α)
  sequence : {α : Type} → Form α → Form (List α)
  table : {α : Type} → Form α → Form (Table α)
  value : Form Value
  kind : Form MatchKind
  cursor : Form Cursor
  options : Form ScannerOptions

namespace Library

variable (library : Library)

def valueConstructors : List (Constructor Value) :=
  [.bare "Null" .null,
    .carrying "Boolean" library.flag .boolean,
    .carrying "Number" library.number .number,
    .carrying "String" library.text .string,
    .carrying "Array" (library.sequence library.value) .array,
    .carrying "Object" (library.table library.value) .ofTable]

def kindConstructors : List (Constructor MatchKind) :=
  [.bare "String" .literal,
    .bare "Regex" .pattern,
    .bare "Enum" .enumeration,
    .carrying "Type" library.text .type]

def cursorFields : List (Field Cursor) :=
  [⟨"pos", library.word, Cursor.pos, none⟩,
    ⟨"last_pos", library.word, Cursor.lastPos, none⟩,
    ⟨"last_match", library.optional library.text, Cursor.lastMatch, some none⟩,
    ⟨"offset", library.word, Cursor.offset, none⟩]

/-- The default options stand in for fields that are missing. -/
def optionsFields : List (Field ScannerOptions) :=
  let normal : ScannerOptions := {}
  [⟨"output_type", library.text, ScannerOptions.outputType, some normal.outputType⟩,
    ⟨"comparison_mode", library.text, ScannerOptions.comparisonMode,
      some normal.comparisonMode⟩]

end Library

/-! ## What is documented -/

structure IsFlag (form : Form Bool) : Prop where
  write : ∀ flag, form.write flag = (if flag then "true" else "false").toList
  read : ∀ depth flag, form.read? depth (.boolean flag) = some flag

/-- Whole numbers below `2 ^ 64`. -/
structure IsWord (form : Form Nat) : Prop where
  write : ∀ number, form.write number = Json.writeNat number
  read : ∀ depth number, number < Nat.pow 2 64 →
    form.read? depth (Json.ofNat number) = some number
  only : ∀ {depth document number}, form.read? depth document = some number →
    number < Nat.pow 2 64

/-- JSON has no number that is not finite.  How exactly numbers are written and read is
not documented; see `Library.ReadsBack`. -/
structure IsNumber (form : Form Float) : Prop where
  only : ∀ {depth document number}, form.read? depth document = some number →
    number.isFinite = true

structure IsText (form : Form String) : Prop where
  write : ∀ text, Json.IsLiteral (form.write text) text
  read : ∀ depth text, form.read? depth (.string (some text)) = some text

section Parts

variable {α : Type}

structure IsOptional (content : Form α) (form : Form (Option α)) : Prop where
  write_none : form.write none = "null".toList
  write_some : ∀ stored, form.write (some stored) = content.write stored
  read_null : ∀ depth, form.read? depth .null = some none
  read : ∀ depth document, document ≠ .null →
    form.read? depth document = (content.read? depth document).map some

/-- Sequences are arrays, which take one level. -/
structure IsSequence (item : Form α) (form : Form (List α)) : Prop where
  write : ∀ items, form.write items = Json.writeArray (items.map item.write)
  read : ∀ {depth documents items}, form.read? (depth + 1) (.array documents) = some items ↔
    List.Forall₂ (fun document stored => item.read? depth document = some stored)
      documents items
  only : ∀ {depth document items}, form.read? depth document = some items →
    ∃ below documents, depth = below + 1 ∧ document = .array documents

/-- Tables are objects, which take one level.  Of several members of one name the last
counts. -/
structure IsTable (text : Form String) (entry : Form α) (form : Form (Table α)) : Prop where
  write : ∀ table : Table α, form.write table =
    Json.writeObject (table.toList.map fun stored =>
      Json.writeMember (text.write stored.1) (entry.write stored.2))
  read : ∀ {depth members table}, form.read? (depth + 1) (.object members) = some table ↔
    ∃ entries, List.Forall₂ (fun (member : Option String × Json) stored =>
      member.1 = some stored.1 ∧ entry.read? depth member.2 = some stored.2) members entries ∧
        Table.ofList entries = table
  only : ∀ {depth document table}, form.read? depth document = some table →
    ∃ below members, depth = below + 1 ∧ document = .object members

/-- A constructor is stored under its tag.  With what it carries it takes one level. -/
def Constructor.StoredBy (text : Form String) (form : Form α) : Constructor α → Prop
  | .bare tag made => form.write made = text.write tag ∧
      ∀ depth, form.read? depth (.string (some tag)) = some made
  | .carrying tag content make =>
      (∀ carried, form.write (make carried) =
        Json.writeObject [Json.writeMember (text.write tag) (content.write carried)]) ∧
      ∀ depth document, form.read? (depth + 1) (.object [(some tag, document)]) =
        (content.read? depth document).map make

/-- What a constructor makes of something that was read. -/
inductive Constructor.Makes : Constructor α → (depth : Nat) → α → Prop
  | bare {tag : String} {made : α} (depth : Nat) : Makes (.bare tag made) depth made
  | carrying {β : Type} {tag : String} {content : Form β} {make : β → α} {depth : Nat}
      {document : Json} {carried : β} (read : content.read? depth document = some carried) :
      Makes (.carrying tag content make) (depth + 1) (make carried)

structure IsChoice (text : Form String) (constructors : List (Constructor α))
    (form : Form α) : Prop where
  stored : ∀ constructor ∈ constructors, constructor.StoredBy text form
  only : ∀ {depth document made}, form.read? depth document = some made →
    ∃ constructor ∈ constructors, constructor.Makes depth made

/-- Records are objects with a member for each field, which take one level. -/
structure IsRecord (text : Form String) (fields : List (Field α)) (form : Form α) : Prop where
  write : ∀ stored, form.write stored = Json.writeObject (fields.map fun field =>
    Json.writeMember (text.write field.name) (field.form.write (field.get stored)))
  read : ∀ {depth} {document : Field α → Json} {stored},
    (∀ field ∈ fields, field.form.read? depth (document field) = some (field.get stored)) →
    form.read? (depth + 1)
      (.object (fields.map fun field => (some field.name, document field))) = some stored
  only : ∀ {depth document stored}, form.read? depth document = some stored →
    ∀ field ∈ fields, field.missing = some (field.get stored) ∨
      ∃ depth content, field.form.read? depth content = some (field.get stored)

end Parts

namespace Library

/-- What the library documents. -/
structure Documented (library : Library) : Prop where
  limit_pos : 0 < library.limit
  readText : ∀ {α : Type} (form : Form α) (text : String),
    library.readText? form text = (Json.read? text).bind (form.read? library.limit)
  flag : IsFlag library.flag
  word : IsWord library.word
  number : IsNumber library.number
  text : IsText library.text
  optional : ∀ {α : Type} (content : Form α), IsOptional content (library.optional content)
  sequence : ∀ {α : Type} (item : Form α), IsSequence item (library.sequence item)
  table : ∀ {α : Type} (entry : Form α),
    IsTable library.text entry (library.table entry)
  value : IsChoice library.text library.valueConstructors library.value
  kind : IsChoice library.text library.kindConstructors library.kind
  cursor : IsRecord library.text library.cursorFields library.cursor
  options : IsRecord library.text library.optionsFields library.options

/-- Whether the written form of a number is read as that number.  This is not documented:
the digits of a number may be gathered and scaled in several steps, each of which rounds. -/
def ReadsBack (library : Library) (quantity : Float) : Prop :=
  ∃ numeral, Json.readNumeral? (library.number.write quantity) = some (numeral, []) ∧
    ∀ depth, library.number.read? depth (.number numeral) = some quantity

end Library

end TextScanner.Stored
