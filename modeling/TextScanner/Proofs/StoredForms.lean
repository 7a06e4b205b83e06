import Mathlib
import TextScanner.Proofs.CompactLibrary

/-!
# Stored forms are read back

Whatever library stores things as it documents, what it stores is read back.  The proof
goes by the parts of a thing.  A part is kept (`Form.Keeps`) if its text is read as one
document, whatever follows it, and that document stores it; each way of putting parts
together keeps what it is given (`IsSequence.keeps`, `IsTable.keeps`,
`IsChoice.keeps_carrying`, `IsRecord.keeps`).  Values are then kept by induction on their
nesting (`Library.Documented.keeps_value`).

A text that was written elsewhere may spell the same thing in other ways.  What is read
from it is made up of parts that were read, level by level, so it can be stored again:
it is not nested deeper than it was read, its objects are in order and its numbers are
finite (`Library.Documented.storable_of_read`), and the fields of a cursor fit into words.
-/

namespace TextScanner.Stored

open Json (Reads ReadsMember)

/-- Values that can be stored within a depth: their numbers are finite, the members
of their objects are listed by strictly increasing name, and they are nested no
deeper.  A constructor with what it carries takes one level, and so does an array or
an object. -/
inductive Storable : (depth : Nat) → Value → Prop
  | null (depth : Nat) : Storable depth .null
  | boolean (depth : Nat) (flag : Bool) : Storable (depth + 1) (.boolean flag)
  | number (depth : Nat) {quantity : Float} (finite : quantity.isFinite = true) :
      Storable (depth + 1) (.number quantity)
  | string (depth : Nat) (text : String) : Storable (depth + 1) (.string text)
  | array {depth : Nat} {items : List Value} (each : ∀ item ∈ items, Storable depth item) :
      Storable (depth + 2) (.array items)
  | object {depth : Nat} {members : List (String × Value)} (ascending : Ascending members)
      (each : ∀ member ∈ members, Storable depth member.2) :
      Storable (depth + 2) (.object members)

/-! ## Parts that are kept -/

section Parts

variable {α : Type} {form : Form α}

/-- Whether something is written as a text that is read as a document, whatever follows
it, and that document stores it. -/
def Form.Keeps (form : Form α) (depth : Nat) (stored : α) : Prop :=
  ∃ document, Reads (form.write stored) document ∧ form.read? depth document = some stored

theorem IsFlag.keeps {form : Form Bool} (flags : IsFlag form) (depth : Nat) (flag : Bool) :
    form.Keeps depth flag := by
  refine ⟨.boolean flag, ?_, flags.read depth flag⟩
  rw [flags.write]
  exact Json.reads_boolean flag

theorem IsWord.keeps {form : Form Nat} (words : IsWord form) (depth : Nat) {number : Nat}
    (word : number < Nat.pow 2 64) : form.Keeps depth number := by
  refine ⟨.ofNat number, ?_, words.read depth number word⟩
  rw [words.write]
  exact Json.reads_writeNat number

theorem IsText.keeps {form : Form String} (texts : IsText form) (depth : Nat) (text : String) :
    form.Keeps depth text :=
  ⟨.string (some text), Json.reads_string (texts.write text), texts.read depth text⟩

/-- A text is never stored as null, so it is told from none. -/
theorem IsOptional.keeps {content : Form String} {form : Form (Option String)}
    (optional : IsOptional content form) (texts : IsText content) (depth : Nat)
    (stored : Option String) : form.Keeps depth stored := by
  cases stored with
  | none =>
      refine ⟨.null, ?_, optional.read_null depth⟩
      rw [optional.write_none]
      exact Json.reads_null
  | some text =>
      refine ⟨.string (some text), ?_, ?_⟩
      · rw [optional.write_some]
        exact Json.reads_string (texts.write text)
      · rw [optional.read depth (.string (some text)) nofun, texts.read]
        rfl

theorem IsSequence.keeps {item : Form α} {form : Form (List α)}
    (sequence : IsSequence item form) {depth : Nat} {items : List α}
    (each : ∀ stored ∈ items, item.Keeps depth stored) : form.Keeps (depth + 1) items := by
  choose! document reads stores using each
  refine ⟨.array (items.map document), ?_, ?_⟩
  · rw [sequence.write]
    exact Json.reads_array reads
  · rw [sequence.read, List.forall₂_map_left_iff, List.forall₂_same]
    exact stores

theorem IsTable.keeps {text : Form String} {entry : Form α} {form : Form (Table α)}
    (tables : IsTable text entry form) (texts : IsText text) {depth : Nat} {table : Table α}
    (each : ∀ stored ∈ table.toList, entry.Keeps depth stored.2) :
    form.Keeps (depth + 1) table := by
  choose! document reads stores using each
  refine ⟨.object (table.toList.map fun stored => (some stored.1, document stored)), ?_, ?_⟩
  · rw [tables.write]
    exact Json.reads_object fun stored listed =>
      ⟨_, _, rfl, texts.write stored.1, reads stored listed⟩
  · refine tables.read.mpr ⟨table.toList, ?_, Table.ofList_toList table⟩
    rw [List.forall₂_map_left_iff, List.forall₂_same]
    exact fun stored listed => ⟨rfl, stores stored listed⟩

section Declared

variable {text : Form String} (texts : IsText text)

include texts

theorem IsChoice.keeps_bare {constructors : List (Constructor α)}
    (choice : IsChoice text constructors form) {tag : String} {made : α}
    (listed : .bare tag made ∈ constructors) (depth : Nat) : form.Keeps depth made := by
  obtain ⟨write, read⟩ := choice.stored _ listed
  refine ⟨.string (some tag), ?_, read depth⟩
  rw [write]
  exact Json.reads_string (texts.write tag)

theorem IsChoice.keeps_carrying {constructors : List (Constructor α)}
    (choice : IsChoice text constructors form) {β : Type} {tag : String} {content : Form β}
    {make : β → α} (listed : .carrying tag content make ∈ constructors) {depth : Nat}
    {carried : β} (keeps : content.Keeps depth carried) :
    form.Keeps (depth + 1) (make carried) := by
  obtain ⟨write, read⟩ := choice.stored _ listed
  obtain ⟨document, reads, stores⟩ := keeps
  refine ⟨.object [(some tag, document)], ?_, ?_⟩
  · rw [write]
    exact Json.reads_member ⟨_, _, rfl, texts.write tag, reads⟩
  · rw [read, stores]
    rfl

theorem IsRecord.keeps {fields : List (Field α)} (record : IsRecord text fields form)
    {depth : Nat} {stored : α}
    (each : ∀ field ∈ fields, field.form.Keeps depth (field.get stored)) :
    form.Keeps (depth + 1) stored := by
  choose! document reads stores using each
  refine ⟨_, ?_, record.read stores⟩
  rw [record.write]
  exact Json.reads_object fun field listed =>
    ⟨_, _, rfl, texts.write field.name, reads field listed⟩

end Declared

end Parts

theorem exists_of_mem_right {α β : Type} {related : α → β → Prop} {left : List α}
    {right : List β} (each : List.Forall₂ related left right) {found : β} (listed : found ∈ right) :
    ∃ origin, related origin found := by
  induction each with
  | nil => cases listed
  | cons first rest ih =>
      rcases List.mem_cons.mp listed with rfl | later
      · exact ⟨_, first⟩
      · exact ih later

/-! ## Declared types are kept -/

namespace Library.Documented

variable {library : Library} (documented : library.Documented)

include documented

theorem keeps_value {depth : Nat} {value : Value} (storable : Storable depth value)
    (readsBack : ∀ quantity, value.Holds quantity → library.ReadsBack quantity) :
    library.value.Keeps depth value := by
  have carrying (tag : String) {β : Type} {content : Form β} (make : β → Value) {depth : Nat}
      {carried : β} (listed : .carrying tag content make ∈ library.valueConstructors) :
      content.Keeps depth carried → library.value.Keeps (depth + 1) (make carried) :=
    documented.value.keeps_carrying documented.text listed
  induction storable with
  | null depth =>
      have listed : .bare "Null" Value.null ∈ library.valueConstructors := by
        simp [valueConstructors]
      exact documented.value.keeps_bare documented.text listed depth
  | boolean depth flag =>
      exact carrying "Boolean" .boolean (by simp [valueConstructors])
        (documented.flag.keeps depth flag)
  | number depth finite =>
      obtain ⟨numeral, read, same⟩ := readsBack _ .number
      exact carrying "Number" .number (by simp [valueConstructors])
        ⟨.number numeral, Json.reads_number read, same _⟩
  | string depth text =>
      exact carrying "String" .string (by simp [valueConstructors])
        (documented.text.keeps depth text)
  | array each ih =>
      have items := (documented.sequence library.value).keeps fun item listed =>
        ih item listed fun quantity holds => readsBack quantity (.array listed holds)
      exact carrying "Array" .array (by simp [valueConstructors]) items
  | @object depth members ascending each ih =>
      have table := (documented.table library.value).keeps documented.text
        (show ∀ member ∈ (Table.mk members ascending).toList, _ from fun member listed =>
          ih member listed fun quantity holds => readsBack quantity (.object listed holds))
      exact carrying "Object" .ofTable (by simp [valueConstructors]) table

theorem keeps_kind (depth : Nat) (kind : MatchKind) : library.kind.Keeps (depth + 1) kind := by
  have bare (tag : String) {made : MatchKind} (listed : .bare tag made ∈ library.kindConstructors) :
      library.kind.Keeps (depth + 1) made :=
    documented.kind.keeps_bare documented.text listed (depth + 1)
  cases kind with
  | literal => exact bare "String" (by simp [kindConstructors])
  | pattern => exact bare "Regex" (by simp [kindConstructors])
  | enumeration => exact bare "Enum" (by simp [kindConstructors])
  | type name =>
      have listed : .carrying "Type" library.text MatchKind.type ∈ library.kindConstructors := by
        simp [kindConstructors]
      exact documented.kind.keeps_carrying documented.text listed
        (documented.text.keeps depth name)

theorem keeps_cursor (depth : Nat) {cursor : Cursor} (pos : cursor.pos < Nat.pow 2 64)
    (lastPos : cursor.lastPos < Nat.pow 2 64) (offset : cursor.offset < Nat.pow 2 64) :
    library.cursor.Keeps (depth + 1) cursor := by
  have word {number : Nat} : number < Nat.pow 2 64 → library.word.Keeps depth number :=
    documented.word.keeps depth
  refine documented.cursor.keeps documented.text ?_
  simp only [cursorFields, List.forall_mem_cons, List.not_mem_nil, false_imp_iff, implies_true,
    and_true]
  exact ⟨word pos, word lastPos,
    (documented.optional _).keeps documented.text depth cursor.lastMatch, word offset⟩

theorem keeps_options (depth : Nat) (options : ScannerOptions) :
    library.options.Keeps (depth + 1) options := by
  refine documented.options.keeps documented.text ?_
  simp only [optionsFields, List.forall_mem_cons, List.not_mem_nil, false_imp_iff, implies_true,
    and_true]
  exact ⟨documented.text.keeps depth _, documented.text.keeps depth _⟩

/-! ## What is read can be stored -/

/-- What a document stores can be stored within the depth that it was read to. -/
theorem storable_of_read {depth : Nat} {document : Json} {value : Value}
    (read : library.value.read? depth document = some value) : Storable depth value := by
  induction depth using Nat.strongRecOn generalizing document value with
  | ind depth ih =>
      obtain ⟨constructor, listed, makes⟩ := documented.value.only read
      simp only [valueConstructors, List.mem_cons, List.not_mem_nil, or_false] at listed
      rcases listed with rfl | rfl | rfl | rfl | rfl | rfl
      · cases makes
        exact .null _
      · cases makes
        exact .boolean _ _
      · cases makes with
        | carrying content => exact .number _ (documented.number.only content)
      · cases makes
        exact .string _ _
      · cases makes with
        | carrying content =>
            obtain ⟨below, documents, rfl, rfl⟩ := (documented.sequence _).only content
            refine .array fun item listed => ?_
            obtain ⟨document, found⟩ :=
              exists_of_mem_right ((documented.sequence _).read.mp content) listed
            exact ih _ (by omega) found
      · cases makes with
        | carrying content =>
            obtain ⟨below, members, rfl, rfl⟩ := (documented.table _).only content
            obtain ⟨entries, each, rfl⟩ := (documented.table _).read.mp content
            refine .object (Table.ascending _) fun member listed => ?_
            obtain ⟨document, -, found⟩ :=
              exists_of_mem_right each (Table.mem_of_mem_toList_ofList listed)
            exact ih _ (by omega) found

/-- The whole numbers of a cursor that is read are words. -/
theorem words_of_read {depth : Nat} {document : Json} {cursor : Cursor}
    (read : library.cursor.read? depth document = some cursor) :
    cursor.pos < Nat.pow 2 64 ∧ cursor.lastPos < Nat.pow 2 64 ∧ cursor.offset < Nat.pow 2 64 := by
  have fields := documented.cursor.only read
  simp only [cursorFields, List.forall_mem_cons] at fields
  have word {number : Nat}
      (read : none = some number ∨
        ∃ depth document, library.word.read? depth document = some number) :
      number < Nat.pow 2 64 := by
    obtain ⟨_, _, found⟩ := read.resolve_left (Option.some_ne_none number).symm
    exact documented.word.only found
  obtain ⟨pos, lastPos, -, offset, -⟩ := fields
  exact ⟨word pos, word lastPos, word offset⟩

end Library.Documented

theorem Storable.isFinite_of_holds {depth : Nat} {value : Value} (storable : Storable depth value)
    {quantity : Float} (holds : value.Holds quantity) : quantity.isFinite = true := by
  induction storable with
  | null => cases holds
  | boolean => cases holds
  | number depth finite =>
      cases holds
      exact finite
  | string => cases holds
  | array each ih =>
      cases holds with
      | array listed holds => exact ih _ listed holds
  | object ascending each ih =>
      cases holds with
      | object listed holds => exact ih _ listed holds

/-! ## Round trips -/

namespace Library

/-- Whether the written forms of the finite numbers in a value are read as those
numbers. -/
def NumbersReadBack (library : Library) (value : Value) : Prop :=
  ∀ quantity, value.Holds quantity → quantity.isFinite = true → library.ReadsBack quantity

/-- Whether the stored form of something is read back as it, and is then stored
as the same text again. -/
def RoundTrips (library : Library) {α : Type} (form : Form α) (stored : α) : Prop :=
  library.readText? form (String.ofList (form.write stored)) = some stored ∧
    (library.readText? form (String.ofList (form.write stored))).map form.write =
      some (form.write stored)

namespace Documented

variable {library : Library} (documented : library.Documented)

include documented

theorem roundTrips {α : Type} {form : Form α} {stored : α}
    (keeps : form.Keeps library.limit stored) : library.RoundTrips form stored := by
  obtain ⟨document, reads, stores⟩ := keeps
  have read : library.readText? form (String.ofList (form.write stored)) = some stored := by
    rw [documented.readText, reads.read?]
    exact stores
  exact ⟨read, congrArg (Option.map form.write) read⟩

/-- A text that is read holds a document that stores what is read. -/
theorem exists_read_of_readText? {α : Type} {form : Form α} {text : String} {stored : α}
    (read : library.readText? form text = some stored) :
    ∃ document, form.read? library.limit document = some stored := by
  rw [documented.readText] at read
  obtain ⟨document, -, stores⟩ := Option.bind_eq_some_iff.mp read
  exact ⟨document, stores⟩

theorem roundTrips_value {value : Value} (storable : Storable library.limit value)
    (readBack : library.NumbersReadBack value) : library.RoundTrips library.value value := by
  have each : ∀ quantity, value.Holds quantity → library.ReadsBack quantity :=
    fun quantity holds => readBack quantity holds (storable.isFinite_of_holds holds)
  exact documented.roundTrips (documented.keeps_value storable each)

theorem roundTrips_kind (kind : MatchKind) : library.RoundTrips library.kind kind := by
  obtain ⟨below, limit⟩ := Nat.exists_eq_add_one.mpr documented.limit_pos
  exact documented.roundTrips (limit ▸ documented.keeps_kind below kind)

theorem roundTrips_cursor {cursor : Cursor} (pos : cursor.pos < Nat.pow 2 64)
    (lastPos : cursor.lastPos < Nat.pow 2 64) (offset : cursor.offset < Nat.pow 2 64) :
    library.RoundTrips library.cursor cursor := by
  obtain ⟨below, limit⟩ := Nat.exists_eq_add_one.mpr documented.limit_pos
  exact documented.roundTrips (limit ▸ documented.keeps_cursor below pos lastPos offset)

theorem roundTrips_options (options : ScannerOptions) :
    library.RoundTrips library.options options := by
  obtain ⟨below, limit⟩ := Nat.exists_eq_add_one.mpr documented.limit_pos
  exact documented.roundTrips (limit ▸ documented.keeps_options below options)

end Documented

end Library

/-- Whatever library stores things as it documents, what is stored is read back as it was,
and whatever is read from a text that someone else wrote is stored in a form that is read
back and stored alike.  Of the numbers in a value it is assumed that the written form of a
finite one is read as that number, and of a value that is stored that it is not nested too
deep. -/
theorem stored_forms_round_trip (library : Library) (documented : library.Documented) :
    (∀ value, Storable library.limit value → library.NumbersReadBack value →
      library.RoundTrips library.value value) ∧
    (∀ cursor : Cursor, cursor.pos < Nat.pow 2 64 → cursor.lastPos < Nat.pow 2 64 →
      cursor.offset < Nat.pow 2 64 → library.RoundTrips library.cursor cursor) ∧
    (∀ options, library.RoundTrips library.options options) ∧
    (∀ kind, library.RoundTrips library.kind kind) ∧
    (∀ text value, library.readText? library.value text = some value →
      library.NumbersReadBack value → library.RoundTrips library.value value) ∧
    (∀ text cursor, library.readText? library.cursor text = some cursor →
      library.RoundTrips library.cursor cursor) ∧
    (∀ text options, library.readText? library.options text = some options →
      library.RoundTrips library.options options) ∧
    (∀ text kind, library.readText? library.kind text = some kind →
      library.RoundTrips library.kind kind) := by
  refine ⟨fun _ => documented.roundTrips_value, fun _ => documented.roundTrips_cursor,
    documented.roundTrips_options, documented.roundTrips_kind, ?_, ?_,
    fun _ options _ => documented.roundTrips_options options,
    fun _ kind _ => documented.roundTrips_kind kind⟩
  · intro text value read readBack
    obtain ⟨document, stores⟩ := documented.exists_read_of_readText? read
    exact documented.roundTrips_value (documented.storable_of_read stores) readBack
  · intro text cursor read
    obtain ⟨document, stores⟩ := documented.exists_read_of_readText? read
    obtain ⟨pos, lastPos, offset⟩ := documented.words_of_read stores
    exact documented.roundTrips_cursor pos lastPos offset

/-- A value with what is hard to store: names, a quote, a number. -/
def respelledValue : Value :=
  .object [("a", .null), ("b", .array [.number 1.5, .string "\"\n"])]

/-- That value, written otherwise than it is stored: with a name listed twice, with blanks and
escapes, with another exponent, and with the nothing that a constructor carries. -/
def respelledText : String :=
  "\x7b\"Object\": \x7b\"b\": \x7b\"Null\": null\x7d, \"a\": \"Null\", " ++
    "\"b\": \x7b\"Array\": [\x7b\"Number\": 15e-1\x7d, " ++
    "\x7b\"String\": \"\\u0022\\n\"\x7d]\x7d\x7d\x7d"

theorem numbersReadBack_respelled : compact.NumbersReadBack respelledValue := by
  have digits : Json.readNumeral? (writeNumber 1.5) =
        some (⟨false, ['1'], some ['5'], none⟩, []) ∧
      number? ⟨false, ['1'], some ['5'], none⟩ = some 1.5 := by
    decide +kernel
  intro quantity holds finite
  cases holds with
  | object listed held =>
      rcases listed with _ | ⟨_, _ | ⟨_, ⟨⟩⟩⟩
      · cases held
      · cases held with
        | array listed held =>
            rcases listed with _ | ⟨_, _ | ⟨_, ⟨⟩⟩⟩
            · cases held
              exact ⟨_, digits.1, fun _ => digits.2⟩
            · cases held

theorem storable_respelled : Storable compact.limit respelledValue := by
  refine .object (by unfold Ascending; decide) ?_
  rintro member (_ | ⟨_, _ | ⟨_, ⟨⟩⟩⟩)
  · exact .null _
  · refine .array ?_
    rintro item (_ | ⟨_, _ | ⟨_, ⟨⟩⟩⟩)
    · exact .number _ (by decide +kernel)
    · exact .string _ _

theorem read_respelled : readValue? respelledText = some respelledValue := by
  have number : number? ⟨false, ['1', '5'], none, some (true, ['1'])⟩ = some 1.5 := by
    decide +kernel
  have document : Json.read? respelledText = some (.object [(some "Object", .object [
      (some "b", .object [(some "Null", .null)]), (some "a", .string (some "Null")),
      (some "b", .object [(some "Array", .array [
        .object [(some "Number", .number ⟨false, ['1', '5'], none, some (true, ['1'])⟩)],
        .object [(some "String", .string (some "\"\n"))]])])])]) := by
    cbv
  have table : Value.ofTable (.ofList [("b", .null), ("a", .null),
      ("b", .array [.number 1.5, .string "\"\n"])]) = respelledValue :=
    rfl
  simp [readValue?, document, depthLimit, value?, items?, members?, carriesNothing, float?,
    number, text?, table]

/-- A respelled value, and other forms: a cursor as an array, and as an object whose members are
out of order, with one that it does not have and one left out; options without members; a kind
with the nothing that it carries. -/
theorem stored_forms_round_trip_of_respelled :
    (Storable compact.limit respelledValue ∧ compact.NumbersReadBack respelledValue ∧
        compact.RoundTrips compact.value respelledValue) ∧
      (readValue? respelledText = some respelledValue ∧
        compact.RoundTrips compact.value respelledValue) ∧
      (readCursor? "[4, 0, \"\\u00e9\", 5]" = some ⟨4, 0, some "é", 5⟩ ∧
        compact.RoundTrips compact.cursor ⟨4, 0, some "é", 5⟩) ∧
      (readCursor? ("\x7b\"offset\": 5, \"extra\": [\x7b\x7d], " ++
          "\"last_pos\": 0, \"pos\": 4\x7d") = some ⟨4, 0, none, 5⟩ ∧
        compact.RoundTrips compact.cursor ⟨4, 0, none, 5⟩) ∧
      (readOptions? "\x7b\x7d" = some {} ∧ compact.RoundTrips compact.options {}) ∧
      (readKind? "\x7b\"Regex\": null\x7d" = some .pattern ∧
        compact.RoundTrips compact.kind .pattern) := by
  obtain ⟨values, cursors, options, kinds, readValues, readCursors, readOptions, readKinds⟩ :=
    stored_forms_round_trip compact documented_compact
  have readCursor {text : String} {cursor : Cursor} (read : readCursor? text = some cursor) :
      compact.RoundTrips compact.cursor cursor :=
    readCursors text cursor ((readText?_onLevel writeCursor cursor? text).trans read)
  have array : readCursor? "[4, 0, \"\\u00e9\", 5]" = some ⟨4, 0, some "é", 5⟩ := by
    decide +kernel
  have shuffled : readCursor? ("\x7b\"offset\": 5, \"extra\": [\x7b\x7d], " ++
      "\"last_pos\": 0, \"pos\": 4\x7d") = some ⟨4, 0, none, 5⟩ := by
    decide +kernel
  have defaults : readOptions? "\x7b\x7d" = some {} := by
    decide +kernel
  have pattern : readKind? "\x7b\"Regex\": null\x7d" = some .pattern := by
    decide +kernel
  exact ⟨⟨storable_respelled, numbersReadBack_respelled,
      values _ storable_respelled numbersReadBack_respelled⟩,
    ⟨read_respelled,
      readValues _ _ ((readText?_value _).trans read_respelled) numbersReadBack_respelled⟩,
    ⟨array, readCursor array⟩, ⟨shuffled, readCursor shuffled⟩,
    ⟨defaults, readOptions _ _ ((readText?_onLevel writeOptions options? _).trans defaults)⟩,
    pattern, readKinds _ _ ((readText?_onLevel writeKind kind? _).trans pattern)⟩

end TextScanner.Stored
