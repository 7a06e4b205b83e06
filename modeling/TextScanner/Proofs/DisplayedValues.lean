import TextScanner.Proofs.Escaping
import TextScanner.Proofs.PlainNumbers

/-!
# Displayed values are read back

A value whose numbers are finite is displayed as one JSON document.  What is read from it is
the value itself: every number, text and name, with the items of arrays in their order and the
members of objects by the bytes of their names.  So no two such values are displayed alike.

The display of a part is read as the document of that part wherever it stands (`Reads`), and
the display of the whole is put together from those of its parts: `exists_document` follows
the value.  Numbers and texts come from `Notation.exists_numeral_of_write` and `reads_quote`.
-/

namespace TextScanner

open Json (Reads ReadsMember separate writeMember)
open String (utf8EncodeChar)

/-! ## The order of names -/

/-- The bytes of a text in UTF-8. -/
def utf8Bytes (text : String) : List UInt8 :=
  text.toUTF8.data.toList

theorem utf8Bytes_eq_flatMap (text : String) :
    utf8Bytes text = text.toList.flatMap utf8EncodeChar := by
  rw [utf8Bytes, String.toUTF8_eq_toByteArray, ← String.utf8Encode_toList]
  simp [List.utf8Encode]

/-- A character with a smaller code is encoded with a smaller byte at some place, and alike
before it. -/
theorem utf8EncodeChar_append_lt {left right : Char} (less : left < right)
    (afterLeft afterRight : List UInt8) :
    utf8EncodeChar left ++ afterLeft < utf8EncodeChar right ++ afterRight := by
  have codes : left.val.toNat < right.val.toNat := less
  have top : right.val.toNat < 0x110000 := by
    rcases right.valid with below | ⟨-, below⟩
    · exact Nat.lt_trans below (by decide)
    · exact below
  -- Each byte behind the first carries the next six bits.
  have two (code : Nat) : code / 4096 = code / 64 / 64 := by
    rw [Nat.div_div_eq_div_mul]
  have three (code : Nat) : code / 262144 = code / 64 / 64 / 64 := by
    rw [Nat.div_div_eq_div_mul, Nat.div_div_eq_div_mul]
  simp only [utf8EncodeChar, two, three]
  generalize left.val.toNat = first at codes
  generalize right.val.toNat = second at codes top
  split_ifs <;>
    simp only [List.cons_append, List.nil_append, List.cons_lt_cons_iff, UInt8.lt_iff_toNat_lt,
      ← UInt8.toNat_inj, UInt8.toNat_ofNat'] <;> omega

theorem flatMap_utf8EncodeChar_lt {left right : List Char} (less : left < right) :
    left.flatMap utf8EncodeChar < right.flatMap utf8EncodeChar := by
  induction less with
  | @nil char rest =>
      obtain ⟨byte, others, encoded⟩ :=
        List.exists_cons_of_ne_nil (@String.utf8EncodeChar_ne_nil char)
      rw [List.flatMap_nil, List.flatMap_cons, encoded]
      exact List.nil_lt_cons byte _
  | rel first =>
      rw [List.flatMap_cons, List.flatMap_cons]
      exact utf8EncodeChar_append_lt first _ _
  | cons same ih =>
      rw [List.flatMap_cons, List.flatMap_cons]
      exact List.append_left_lt ih

/-- Names in order are in the order of their bytes. -/
theorem utf8Bytes_lt {left right : String} (less : left < right) :
    utf8Bytes left < utf8Bytes right := by
  rw [utf8Bytes_eq_flatMap, utf8Bytes_eq_flatMap]
  exact flatMap_utf8EncodeChar_lt less

/-! ## Values of documents -/

namespace Value

mutual

/-- The value that a document denotes.  Of several members of one name the last counts, and
a string that denotes no text has no value. -/
def ofDocument? : Json → Option Value
  | .null => some .null
  | .boolean flag => some (.boolean flag)
  | .number numeral => some (.number numeral.toFloat)
  | .string text => text.map .string
  | .array items => (ofDocuments? items).map .array
  | .object members => (ofMembers? members).map fun members => .ofTable (.ofList members)

def ofDocuments? : List Json → Option (List Value)
  | [] => some []
  | item :: rest =>
      match ofDocument? item, ofDocuments? rest with
      | some item, some rest => some (item :: rest)
      | _, _ => none

def ofMembers? : List (Option String × Json) → Option (List (String × Value))
  | [] => some []
  | (name, item) :: rest =>
      match name, ofDocument? item, ofMembers? rest with
      | some name, some item, some rest => some ((name, item) :: rest)
      | _, _, _ => none

end

/-- The members of every object in a value are listed by strictly increasing name. -/
inductive Ordered : Value → Prop
  | null : Ordered .null
  | boolean (flag : Bool) : Ordered (.boolean flag)
  | number (quantity : Float) : Ordered (.number quantity)
  | string (text : String) : Ordered (.string text)
  | array {items : List Value} (each : ∀ item ∈ items, Ordered item) : Ordered (.array items)
  | object {members : List (String × Value)} (ascending : Ascending members)
      (each : ∀ member ∈ members, Ordered member.2) : Ordered (.object members)

/-- Objects are built from tables, which keep their members in order. -/
theorem Ordered.ofTable {members : Table Value}
    (each : ∀ member ∈ members.toList, Ordered member.2) : Ordered (.ofTable members) :=
  .object members.ascending each

end Value

/-- The members of every object in a document have names, whose bytes strictly increase. -/
inductive Json.Ordered : Json → Prop
  | null : Ordered .null
  | boolean (flag : Bool) : Ordered (.boolean flag)
  | number (numeral : Numeral) : Ordered (.number numeral)
  | string (text : Option String) : Ordered (.string text)
  | array {items : List Json} (each : ∀ item ∈ items, Ordered item) : Ordered (.array items)
  | object {members : List (String × Json)}
      (increasing : members.Pairwise fun earlier later => utf8Bytes earlier.1 < utf8Bytes later.1)
      (each : ∀ member ∈ members, Ordered member.2) :
      Ordered (.object (members.map fun member => (some member.1, member.2)))

/-! ## Displayed parts -/

namespace Value

theorem displayItems_eq_separate (items : List Value) :
    displayItems items = separate (items.map displayChars) := by
  induction items with
  | nil => rfl
  | cons item rest ih =>
      cases rest with
      | nil => rfl
      | cons next rest =>
          rw [displayItems, ih]
          rfl

/-- A displayed member of an object. -/
def displayMember (member : String × Value) : List Char :=
  writeMember (quote member.1) member.2.displayChars

theorem displayMembers_eq_separate (members : List (String × Value)) :
    displayMembers members = separate (members.map displayMember) := by
  induction members with
  | nil => rfl
  | cons member rest ih =>
      cases rest with
      | nil => rfl
      | cons next rest =>
          rw [displayMembers, ih]
          simp [separate, displayMember, writeMember]

theorem readsMember_displayMember {member : String × Value} {document : Json}
    (reads : Reads member.2.displayChars document) :
    ReadsMember (displayMember member) member.1 document :=
  ⟨_, _, rfl, isLiteral_quote member.1, reads⟩

theorem ofDocuments?_map {items : List Value} {document : Value → Json}
    (each : ∀ item ∈ items, ofDocument? (document item) = some item) :
    ofDocuments? (items.map document) = some items := by
  induction items with
  | nil => rfl
  | cons item rest ih =>
      rcases List.forall_mem_cons.mp each with ⟨first, others⟩
      rw [List.map_cons, ofDocuments?, first, ih others]

theorem ofMembers?_map {members : List (String × Value)} {document : String × Value → Json}
    (each : ∀ member ∈ members, ofDocument? (document member) = some member.2) :
    ofMembers? (members.map fun member => (some member.1, document member)) = some members := by
  induction members with
  | nil => rfl
  | cons member rest ih =>
      rcases List.forall_mem_cons.mp each with ⟨first, others⟩
      simp only [List.map_cons, ofMembers?, first, ih others]

/-! ## Displayed values -/

/-- The display of a value is read as a document of it. -/
theorem exists_document {value : Value} (ordered : value.Ordered)
    (finite : ∀ quantity, value.Holds quantity → quantity.isFinite = true) :
    ∃ document, Reads value.displayChars document ∧ document.Ordered ∧
      ofDocument? document = some value := by
  induction ordered with
  | null => exact ⟨.null, Json.reads_null, .null, rfl⟩
  | boolean flag =>
      refine ⟨.boolean flag, ?_, .boolean flag, rfl⟩
      have reads := Json.reads_boolean flag
      cases flag <;> exact reads
  | number quantity =>
      obtain ⟨numeral, read, -, same⟩ :=
        Notation.exists_numeral_of_write (finite quantity .number)
      exact ⟨.number numeral, Json.reads_number read, .number numeral, by rw [ofDocument?, same]⟩
  | string text => exact ⟨.string (some text), reads_quote text, .string (some text), rfl⟩
  | @array items each ih =>
      have parts : ∀ item ∈ items, ∃ document, Reads item.displayChars document ∧
          document.Ordered ∧ ofDocument? document = some item := fun item listed =>
        ih item listed fun quantity holds => finite quantity (.array listed holds)
      choose! document reads documentOrdered same using parts
      refine ⟨.array (items.map document), ?_, ?_, ?_⟩
      · rw [displayChars, displayItems_eq_separate]
        exact Json.reads_array reads
      · exact .array (List.forall_mem_map.mpr documentOrdered)
      · rw [ofDocument?, ofDocuments?_map same, Option.map_some]
  | @object members ascending each ih =>
      have parts : ∀ member ∈ members, ∃ document, Reads member.2.displayChars document ∧
          document.Ordered ∧ ofDocument? document = some member.2 := fun member listed =>
        ih member listed fun quantity holds => finite quantity (.object listed holds)
      choose! document reads documentOrdered same using parts
      refine ⟨.object (members.map fun member => (some member.1, document member)), ?_, ?_, ?_⟩
      · rw [displayChars, displayMembers_eq_separate]
        exact Json.reads_object fun member listed =>
          readsMember_displayMember (reads member listed)
      · have increasing : (members.map fun member => (member.1, document member)).Pairwise
            fun earlier later => utf8Bytes earlier.1 < utf8Bytes later.1 :=
          List.pairwise_map.mpr (ascending.imp utf8Bytes_lt)
        have ordered :=
          Json.Ordered.object increasing (List.forall_mem_map.mpr documentOrdered)
        rwa [List.map_map] at ordered
      · rw [ofDocument?, ofMembers?_map same, Option.map_some, ofTable,
          Table.toList_ofList ascending]

theorem exists_read_display {value : Value} (ordered : value.Ordered)
    (finite : ∀ quantity, value.Holds quantity → quantity.isFinite = true) :
    ∃ document, Json.read? value.display = some document ∧ document.Ordered ∧
      ofDocument? document = some value := by
  obtain ⟨document, reads, documentOrdered, same⟩ := exists_document ordered finite
  exact ⟨document, reads.read?, documentOrdered, same⟩

theorem eq_of_display_eq {left right : Value} (leftOrdered : left.Ordered)
    (rightOrdered : right.Ordered)
    (leftFinite : ∀ quantity, left.Holds quantity → quantity.isFinite = true)
    (rightFinite : ∀ quantity, right.Holds quantity → quantity.isFinite = true)
    (alike : left.display = right.display) : left = right := by
  obtain ⟨document, read, -, leftSame⟩ := exists_read_display leftOrdered leftFinite
  obtain ⟨other, otherRead, -, rightSame⟩ := exists_read_display rightOrdered rightFinite
  rw [alike, otherRead] at read
  obtain rfl := Option.some.inj read
  exact Option.some.inj (leftSame.symm.trans rightSame)

/-- The display of a value whose numbers are finite is one JSON document, which is read back
as that value.  So two such values are displayed alike only if they are the same. -/
theorem displayed_values_read_back :
    (∀ value : Value, value.Ordered →
      (∀ quantity, value.Holds quantity → quantity.isFinite = true) →
      ∃ document, Json.read? value.display = some document ∧ document.Ordered ∧
        ofDocument? document = some value) ∧
    (∀ left right : Value, left.Ordered → right.Ordered →
      (∀ quantity, left.Holds quantity → quantity.isFinite = true) →
      (∀ quantity, right.Holds quantity → quantity.isFinite = true) →
      left.display = right.display → left = right) :=
  ⟨fun _ => exists_read_display, fun _ _ => eq_of_display_eq⟩

/-- Members with what is hard to tell from its surroundings: a name that holds a quote, a
comma, a brace and a backslash, a text that ends with one, and an object without members. -/
def crowdedMembers : List (String × Value) :=
  [("\",\x7d\\", .array [.number 1.5, .string "[\n\\", .object []]), ("", .number (-0.0))]

theorem ordered_crowded : (ofTable (.ofList crowdedMembers)).Ordered := by
  refine .ofTable fun member listed => ?_
  rcases Table.mem_of_mem_toList_ofList listed with _ | ⟨_, _ | ⟨_, ⟨⟩⟩⟩
  · refine .array ?_
    rintro item (_ | ⟨_, _ | ⟨_, _ | ⟨_, ⟨⟩⟩⟩⟩)
    · exact .number _
    · exact .string _
    · exact .object .nil nofun
  · exact .number _

theorem finite_crowded {quantity : Float}
    (holds : (ofTable (.ofList crowdedMembers)).Holds quantity) : quantity.isFinite = true := by
  cases holds with
  | object listed held =>
      rcases Table.mem_of_mem_toList_ofList listed with _ | ⟨_, _ | ⟨_, ⟨⟩⟩⟩
      · cases held with
        | array listed held =>
            rcases listed with _ | ⟨_, _ | ⟨_, _ | ⟨_, ⟨⟩⟩⟩⟩
            · cases held
              decide +kernel
            · cases held
            · cases held with
              | object listed => cases listed
      · cases held
        decide +kernel

/-- The members are displayed by name, in whatever order they were put in. -/
theorem displayed_values_read_back_of_crowded :
    ((ofTable (.ofList crowdedMembers)).display =
        "\x7b\"\":-0,\"\\\",\x7d\\\\\":[1.5,\"[\\n\\\\\",\x7b\x7d]\x7d" ∧
      ∃ document, Json.read? (ofTable (.ofList crowdedMembers)).display = some document ∧
        document.Ordered ∧ ofDocument? document = some (ofTable (.ofList crowdedMembers))) ∧
    ofTable (.ofList crowdedMembers.reverse) = ofTable (.ofList crowdedMembers) := by
  obtain ⟨readBack, injective⟩ := displayed_values_read_back
  have finite : ∀ quantity, (ofTable (.ofList crowdedMembers)).Holds quantity →
      quantity.isFinite = true := fun _ => finite_crowded
  exact ⟨⟨by decide +kernel, readBack _ ordered_crowded finite⟩,
    injective _ _ ordered_crowded ordered_crowded finite finite rfl⟩

end Value

end TextScanner
