import Mathlib
import TextScanner.Proofs.Finiteness
import TextScanner.Proofs.JsonText
import TextScanner.Stored.Compact

/-!
# The compact library does what is documented

What is documented of a library is met (`documented_compact`), form by form: texts and
whole numbers, sequences and tables, then values by their constructors, level by level,
and cursors and options by their fields.
-/

namespace TextScanner.Stored

open Json (Escapes IsLiteral)

/-! ## Texts and numbers -/

theorem escapes_writeChar (char : Char) : Escapes (writeChar char) char := by
  fun_cases writeChar char with
  | case8 _ _ _ _ _ _ _ control =>
      exact Json.escapes_fourHexDigits (Or.inl rfl) (by omega)
  | case9 quote backslash _ _ _ _ _ visible => exact Json.escapes_self quote backslash visible
  | case1 | case2 | case3 | case4 | case5 | case6 | case7 =>
      subst_vars
      exact Json.escapes_short rfl

theorem isText_compact : IsText compact.text where
  write := Json.isLiteral_flatMap escapes_writeChar
  read _ _ := rfl

theorem word?_lt {document : Json} {number : Nat} (read : word? document = some number) :
    number < Nat.pow 2 64 := by
  cases document with
  | number numeral =>
      have kept := (Option.filter_eq_some_iff.1 read).2
      simpa using kept
  | _ => simp [word?] at read

theorem isWord_compact : IsWord compact.word where
  write _ := rfl
  read _ number word := by
    simp [compact, word?, Json.ofNat, Numeral.toNat?, Json.digitsValue_writeNat, word]
  only := word?_lt

theorem isNumber_compact : IsNumber compact.number where
  only {depth document number} read := by
    cases document with
    | number numeral => exact isFinite_of_number? read
    | _ => nomatch read

/-! ## Sequences and tables -/

section Parts

variable {α β : Type}

theorem mapM_eq_some_iff {read? : α → Option β} {parts : List α} {stored : List β} :
    parts.mapM read? = some stored ↔
      List.Forall₂ (fun part found => read? part = some found) parts stored := by
  induction parts generalizing stored with
  | nil => cases stored <;> simp
  | cons part parts ih =>
      rw [List.mapM_cons, List.forall₂_cons_left_iff]
      simp only [Option.bind_eq_bind, Option.bind_eq_some_iff, ih, Option.pure_def,
        Option.some.injEq]
      constructor
      · rintro ⟨first, read, others, each, rfl⟩
        exact ⟨first, others, read, each, rfl⟩
      · rintro ⟨first, others, read, each, rfl⟩
        exact ⟨first, read, others, each, rfl⟩

theorem isOptional_compact (content : Form α) :
    IsOptional content (compact.optional content) where
  write_none := rfl
  write_some _ := rfl
  read_null _ := rfl
  read depth document present := by
    cases document with
    | null => exact absurd rfl present
    | _ => rfl

theorem isSequence_compact (item : Form α) : IsSequence item (compact.sequence item) where
  write _ := rfl
  read := mapM_eq_some_iff
  only {depth document items} read := by
    cases depth with
    | zero => nomatch read
    | succ below =>
        cases document with
        | array documents => exact ⟨below, documents, rfl, rfl⟩
        | _ => nomatch read

theorem readMember?_eq_some_iff {entry : Form α} {depth : Nat} {member : Option String × Json}
    {stored : String × α} :
    readMember? entry depth member = some stored ↔
      member.1 = some stored.1 ∧ entry.read? depth member.2 = some stored.2 := by
  rcases stored with ⟨name, content⟩
  simp [readMember?, Option.bind_eq_some_iff]

theorem isTable_compact (entry : Form α) :
    IsTable compact.text entry (compact.table entry) where
  write _ := rfl
  read {depth members table} := by
    change (members.mapM (readMember? entry depth)).map Table.ofList = some table ↔ _
    simp only [Option.map_eq_some_iff, mapM_eq_some_iff, readMember?_eq_some_iff]
  only {depth document table} read := by
    cases depth with
    | zero => nomatch read
    | succ below =>
        cases document with
        | object members => exact ⟨below, members, rfl, rfl⟩
        | _ => nomatch read

end Parts

/-! ## Values -/

theorem writeItems_eq_map (items : List Value) : writeItems items = items.map writeValue := by
  induction items with
  | nil => rfl
  | cons item rest ih => rw [writeItems, ih, List.map_cons]

theorem writeMembers_eq_map (members : List (String × Value)) :
    writeMembers members =
      members.map fun member => Json.writeMember (writeText member.1) (writeValue member.2) := by
  induction members with
  | nil => rfl
  | cons member rest ih => rw [writeMembers, ih, List.map_cons]

theorem items?_eq_mapM (depth : Nat) (documents : List Json) :
    items? depth documents = documents.mapM (value? depth) := by
  induction documents with
  | nil => rfl
  | cons document rest ih =>
      rw [items?, ih, List.mapM_cons]
      cases value? depth document with
      | none => rfl
      | some item => cases rest.mapM (value? depth) <;> rfl

theorem members?_eq_mapM (depth : Nat) (members : List (Option String × Json)) :
    members? depth members = members.mapM (readMember? compact.value depth) := by
  induction members with
  | nil => rfl
  | cons member rest ih =>
      rcases member with ⟨name, document⟩
      cases name with
      | none => rfl
      | some name =>
          have entry : readMember? compact.value depth (some name, document) =
              (value? depth document).map fun item => (name, item) := by
            change (value? depth document).bind (fun item => some (name, item)) = _
            cases value? depth document <;> rfl
          rw [members?.eq_def, List.mapM_cons, entry]
          simp only [ih]
          cases value? depth document with
          | none => rfl
          | some item => cases rest.mapM (readMember? compact.value depth) <;> rfl

theorem value?_array (depth : Nat) (document : Json) :
    value? (depth + 1) (.object [(some "Array", document)]) =
      ((compact.sequence compact.value).read? depth document).map .array := by
  cases depth with
  | zero => rfl
  | succ depth =>
      cases document with
      | array documents =>
          change (items? depth documents).map _ = _
          rw [items?_eq_mapM]
          rfl
      | _ => rfl

theorem value?_object (depth : Nat) (document : Json) :
    value? (depth + 1) (.object [(some "Object", document)]) =
      ((compact.table compact.value).read? depth document).map .ofTable := by
  cases depth with
  | zero => rfl
  | succ depth =>
      cases document with
      | object members =>
          change (members? depth members).map _ = _
          rw [members?_eq_mapM]
          exact (Option.map_map Value.ofTable Table.ofList _).symm
      | _ => rfl

theorem exists_makes_of_value? {depth : Nat} {document : Json} {value : Value}
    (read : value? depth document = some value) :
    ∃ constructor ∈ compact.valueConstructors, constructor.Makes depth value := by
  have made (tag : String) {β : Type} (content : Form β) {make : β → Value} {depth : Nat}
      {document : Json} (listed : .carrying tag content make ∈ compact.valueConstructors)
      (read : (content.read? depth document).map make = some value) :
      ∃ constructor ∈ compact.valueConstructors, constructor.Makes (depth + 1) value := by
    obtain ⟨carried, found, rfl⟩ := Option.map_eq_some_iff.mp read
    exact ⟨_, listed, .carrying found⟩
  have bare (depth : Nat) :
      ∃ constructor ∈ compact.valueConstructors, constructor.Makes depth Value.null :=
    ⟨.bare "Null" .null, by simp [Library.valueConstructors], .bare depth⟩
  -- The level of an array or an object is counted in the same step as that of its
  -- constructor, so these two cases go back to the whole document.
  have whole := read
  unfold value? at read
  split at read
  · obtain rfl := Option.some.inj read
    exact bare _
  · rename_i depth tag content
    split at read
    · split at read
      · obtain rfl := Option.some.inj read
        exact bare _
      · nomatch read
    · exact made "Boolean" compact.flag (by simp [Library.valueConstructors]) read
    · exact made "Number" compact.number (by simp [Library.valueConstructors]) read
    · exact made "String" compact.text (by simp [Library.valueConstructors]) read
    · exact made "Array" (compact.sequence compact.value) (by simp [Library.valueConstructors])
        ((value?_array _ _).symm.trans whole)
    · exact made "Object" (compact.table compact.value) (by simp [Library.valueConstructors])
        ((value?_object _ _).symm.trans whole)
    · nomatch read
  · nomatch read

theorem isChoice_compact_value :
    IsChoice compact.text compact.valueConstructors compact.value where
  stored := by
    simp only [Library.valueConstructors, List.forall_mem_cons, List.not_mem_nil, false_imp_iff,
      implies_true, and_true]
    refine ⟨⟨rfl, ?_⟩, ⟨fun _ => rfl, fun _ _ => rfl⟩, ⟨fun _ => rfl, fun _ _ => rfl⟩,
      ⟨fun _ => rfl, fun _ _ => rfl⟩, ⟨?_, value?_array⟩, ⟨?_, value?_object⟩⟩
    · intro depth
      cases depth <;> rfl
    · intro items
      change writeTagged "Array" (Json.writeArray (writeItems items)) = _
      rw [writeItems_eq_map]
      rfl
    · intro table
      change writeTagged "Object" (Json.writeObject (writeMembers table.toList)) = _
      rw [writeMembers_eq_map]
      rfl
  only := exists_makes_of_value?

/-! ## Kinds -/

theorem onLevel_eq_some {α : Type} {read? : Json → Option α} {depth : Nat} {document : Json}
    {stored : α} (read : onLevel read? depth document = some stored) :
    read? document = some stored := by
  unfold onLevel at read
  split at read
  · nomatch read
  · nomatch read
  · exact read

theorem eq_object_of_tagged? {document content : Json} {tag : String}
    (read : tagged? document = some (tag, some content)) :
    document = .object [(some tag, content)] := by
  fun_cases tagged? document with
  | case1 => simp [tagged?] at read
  | case2 => simpa [tagged?] using read
  | case3 => simp [tagged?] at read

theorem exists_makes_of_kind? {depth : Nat} {document : Json} {kind : MatchKind}
    (read : onLevel kind? depth document = some kind) :
    ∃ constructor ∈ compact.kindConstructors, constructor.Makes depth kind := by
  have bare (tag : String) {content : Option Json} {made : MatchKind}
      (listed : .bare tag made ∈ compact.kindConstructors)
      (found : (if carriesNothing content then some made else none) = some kind) :
      ∃ constructor ∈ compact.kindConstructors, constructor.Makes depth kind := by
    split at found
    · obtain rfl := Option.some.inj found
      exact ⟨_, listed, .bare depth⟩
    · nomatch found
  have found := onLevel_eq_some read
  unfold kind? at found
  split at found
  · exact bare "String" (by simp [Library.kindConstructors]) found
  · exact bare "Regex" (by simp [Library.kindConstructors]) found
  · exact bare "Enum" (by simp [Library.kindConstructors]) found
  · rename_i tagged
    obtain rfl := eq_object_of_tagged? tagged
    obtain ⟨name, carried, rfl⟩ := Option.map_eq_some_iff.mp found
    cases depth with
    | zero => nomatch read
    | succ below =>
        refine ⟨.carrying "Type" compact.text .type, by simp [Library.kindConstructors], ?_⟩
        exact .carrying carried
  · nomatch found

theorem isChoice_compact_kind :
    IsChoice compact.text compact.kindConstructors compact.kind where
  stored := by
    simp only [Library.kindConstructors, List.forall_mem_cons, List.not_mem_nil, false_imp_iff,
      implies_true, and_true]
    refine ⟨⟨rfl, ?_⟩, ⟨rfl, ?_⟩, ⟨rfl, ?_⟩, ⟨fun _ => rfl, fun _ _ => rfl⟩⟩
    all_goals
      intro depth
      cases depth <;> rfl
  only := exists_makes_of_kind?

/-! ## Cursors and options -/

theorem optionalText?_eq (depth : Nat) (document : Json) :
    optionalText? document = (compact.optional compact.text).read? depth document := by
  cases document <;> rfl

theorem missing_or_read {α : Type} {missing : Option α} {read? : Json → Option α}
    {field : Option Json} {found : α} (read : fieldOr missing read? field = some found) :
    missing = some found ∨ ∃ document, read? document = some found := by
  cases field with
  | none => exact .inl read
  | some document => exact .inr ⟨document, read⟩

theorem writeCursor_eq (cursor : Cursor) :
    writeCursor cursor = Json.writeObject (compact.cursorFields.map fun field =>
      Json.writeMember (writeText field.name) (field.form.write (field.get cursor))) := by
  rcases cursor with ⟨pos, lastPos, lastMatch, offset⟩
  cases lastMatch <;> rfl

theorem fields_of_cursor? {document : Json} {cursor : Cursor}
    (read : cursor? document = some cursor) :
    (∃ document, word? document = some cursor.pos) ∧
      (∃ document, word? document = some cursor.lastPos) ∧
      (some none = some cursor.lastMatch ∨
        ∃ document, optionalText? document = some cursor.lastMatch) ∧
      ∃ document, word? document = some cursor.offset := by
  have word {field : Option Json} {number : Nat} (read : fieldOr none word? field = some number) :
      ∃ document, word? document = some number :=
    (missing_or_read read).resolve_left (Option.some_ne_none number).symm
  unfold cursor? at read
  split at read
  · simp only [Option.bind_eq_bind, Option.bind_eq_some_iff] at read
    obtain ⟨_, _, _, _, _, _, _, _, _, _, pos, readPos, lastPos, readLastPos, lastMatch,
      readLastMatch, offset, readOffset, same⟩ := read
    obtain rfl := Option.some.inj same
    exact ⟨word readPos, word readLastPos, missing_or_read readLastMatch, word readOffset⟩
  · simp only [Option.bind_eq_bind, Option.bind_eq_some_iff] at read
    obtain ⟨pos, readPos, lastPos, readLastPos, lastMatch, readLastMatch, offset, readOffset,
      same⟩ := read
    obtain rfl := Option.some.inj same
    exact ⟨⟨_, readPos⟩, ⟨_, readLastPos⟩, .inr ⟨_, readLastMatch⟩, ⟨_, readOffset⟩⟩
  · nomatch read

theorem isRecord_compact_cursor :
    IsRecord compact.text compact.cursorFields compact.cursor where
  write := writeCursor_eq
  read {depth document stored} each := by
    simp only [Library.cursorFields, List.forall_mem_cons, ← optionalText?_eq] at each
    obtain ⟨pos, lastPos, lastMatch, offset, -⟩ := each
    change word? _ = some _ at pos lastPos offset
    change cursor? (.object _) = some stored
    simp [Library.cursorFields, cursor?, named, field?, fieldOr, guard, pos, lastPos, lastMatch,
      offset]
  only {depth document stored} read := by
    obtain ⟨⟨_, pos⟩, ⟨_, lastPos⟩, lastMatch, ⟨_, offset⟩⟩ :=
      fields_of_cursor? (onLevel_eq_some read)
    simp only [Library.cursorFields, List.forall_mem_cons, List.not_mem_nil, false_imp_iff,
      implies_true, and_true]
    exact ⟨.inr ⟨depth, _, pos⟩, .inr ⟨depth, _, lastPos⟩,
      lastMatch.imp_right fun ⟨document, read⟩ => ⟨depth, document,
        (optionalText?_eq depth document).symm.trans read⟩, .inr ⟨depth, _, offset⟩⟩

theorem fields_of_options? {document : Json} {options : ScannerOptions}
    (read : options? document = some options) :
    (some OutputFormat.normalName = some options.outputType ∨
        ∃ document, text? document = some options.outputType) ∧
      (some ComparisonMode.normalName = some options.comparisonMode ∨
        ∃ document, text? document = some options.comparisonMode) := by
  unfold options? at read
  split at read
  · simp only [Option.bind_eq_bind, Option.bind_eq_some_iff] at read
    obtain ⟨_, _, _, _, _, _, outputType, readOutput, comparisonMode, readComparison,
      same⟩ := read
    obtain rfl := Option.some.inj same
    exact ⟨missing_or_read readOutput, missing_or_read readComparison⟩
  · simp only [Option.bind_eq_bind, Option.bind_eq_some_iff] at read
    obtain ⟨_, _, outputType, readOutput, comparisonMode, readComparison, same⟩ := read
    obtain rfl := Option.some.inj same
    exact ⟨missing_or_read readOutput, missing_or_read readComparison⟩
  · nomatch read

theorem isRecord_compact_options :
    IsRecord compact.text compact.optionsFields compact.options where
  write _ := rfl
  read {depth document stored} each := by
    simp only [Library.optionsFields, List.forall_mem_cons] at each
    obtain ⟨outputType, comparisonMode, -⟩ := each
    change text? _ = some _ at outputType comparisonMode
    change options? (.object _) = some stored
    simp [Library.optionsFields, options?, named, field?, fieldOr, guard, outputType,
      comparisonMode]
  only {depth document stored} read := by
    obtain ⟨outputType, comparisonMode⟩ := fields_of_options? (onLevel_eq_some read)
    simp only [Library.optionsFields, List.forall_mem_cons, List.not_mem_nil, false_imp_iff,
      implies_true, and_true]
    exact ⟨outputType.imp_right (.intro depth), comparisonMode.imp_right (.intro depth)⟩

theorem documented_compact : compact.Documented where
  limit_pos := by decide
  readText _ _ := rfl
  flag := { write := fun _ => rfl, read := fun _ _ => rfl }
  word := isWord_compact
  number := isNumber_compact
  text := isText_compact
  optional := isOptional_compact
  sequence := isSequence_compact
  table := isTable_compact
  value := isChoice_compact_value
  kind := isChoice_compact_kind
  cursor := isRecord_compact_cursor
  options := isRecord_compact_options

theorem readText?_value (text : String) : compact.readText? compact.value text = readValue? text :=
  rfl

/-- What is read from a whole text may be nested, so kinds, cursors and options are read as
from any document. -/
theorem readText?_onLevel {α : Type} (write : α → List Char) (read? : Json → Option α)
    (text : String) :
    compact.readText? ⟨write, onLevel read?⟩ text = (Json.read? text).bind read? := by
  have whole (document : Json) : onLevel read? depthLimit document = read? document := by
    cases document <;> rfl
  exact congrArg (Option.bind (Json.read? text)) (funext whole)

end TextScanner.Stored
