import TextScanner.Proofs.Layout
import TextScanner.Proofs.Provenance
import TextScanner.Proofs.Selection

/-!
# Which lines dumps stand on

A dump escapes the texts it shows, but not all of them.  The dump of a scanner shows the
selected modes as they are, and the dump of an outcome shows so the source of a pattern and
the name of a type, this one even twice.  All else is escaped or made of digits
(`View.laidOut_dump`, `AdvancedOutput.laidOut_dump`).

So a dump stands on the lines it was laid out on just if those few texts stay on theirs.
-/

namespace TextScanner

/-! ## The dump of a scanner -/

/-- The lines of a part of a dump that lists so many entries. -/
def sectionLines (entries : Nat) : Nat :=
  if entries = 0 then 1 else entries + 2

namespace View

/-- The lines of the parts of a dump that list entries. -/
def listedLines (view : View) : Nat :=
  sectionLines view.pointers.toList.length + sectionLines view.types.length +
    sectionLines view.macros.length + sectionLines view.outputTypes.length +
    sectionLines view.comparisonModes.length + sectionLines view.data.names.length

/-- A line shows what its content shows. -/
theorem laidOut_dumpLine (label : String) (named : LaidOut 0 [] label) {content : String}
    {shown : List String} (laid : LaidOut 0 shown content) :
    LaidOut 1 shown (dumpLine label content) := by
  have indent : LaidOut 0 [] "  " := .refl _
  have colon : LaidOut 0 [] ":" := .refl _
  have start := indent.append ((named.append colon).padRight 18)
  have whole := (start.append laid).append laidOut_newline
  rw [List.append_nil] at whole
  exact whole

/-- Each entry of a part has a line. -/
theorem laidOut_entries {entries : List String} (each : ∀ entry ∈ entries, LaidOut 0 [] entry) :
    LaidOut entries.length [] (String.join (entries.map fun entry => "    " ++ entry ++ "\n")) := by
  have indent : LaidOut 0 [] "    " := .refl _
  have lines : ∀ line ∈ entries.map fun entry => "    " ++ entry ++ "\n", LaidOut 1 [] line := by
    intro line member
    rcases List.mem_map.mp member with ⟨entry, listed, rfl⟩
    exact (indent.append (each entry listed)).append laidOut_newline
  have joined := laidOut_join lines
  rw [List.length_map, Nat.mul_one] at joined
  exact joined

/-- A part that is not empty has a line before and one behind its entries. -/
theorem laidOut_dumpSection {α : Type} (label : String) (named : LaidOut 0 [] label)
    (items : List α) {write : α → String} (each : ∀ item, LaidOut 0 [] (write item)) :
    LaidOut (sectionLines items.length) [] (dumpSection label (items.map write)) := by
  cases items with
  | nil => exact laidOut_dumpLine label named (.refl _)
  | cons item rest =>
      have written : ∀ entry ∈ (item :: rest).map write, LaidOut 0 [] entry := by
        intro entry member
        rcases List.mem_map.mp member with ⟨item, _, rfl⟩
        exact each item
      have opening : LaidOut 1 [] (dumpLine label "\x7b") :=
        laidOut_dumpLine label named (.refl _)
      have closing : LaidOut 1 [] "  \x7d\n" := .refl _
      have whole := (opening.append (laidOut_entries written)).append closing
      have lines : sectionLines (item :: rest).length =
          1 + ((item :: rest).map write).length + 1 := by
        have listed : (item :: rest).length ≠ 0 := Nat.succ_ne_zero rest.length
        rw [sectionLines, if_neg listed, List.length_map]
        omega
      rw [lines]
      exact whole

/-- A saved cursor is listed by its position and its name. -/
theorem laidOut_pointer (name : String) (pos : Nat) :
    LaidOut 0 [] (padRight 4 (toString pos) ++ " @ " ++ String.ofList (quote name)) := by
  have separator : LaidOut 0 [] " @ " := .refl _
  exact (((laidOut_toString pos).padRight 4).append separator).append (laidOut_quote name)

end View

theorem laidOut_quoteOrNull (text : Option String) : LaidOut 0 [] (quoteOrNull text) := by
  cases text with
  | none => exact .refl _
  | some text => exact laidOut_quote text

theorem laidOut_selection (name : String) : LaidOut 0 [name] ("\"" ++ name ++ "\"") :=
  (laidOut_self name).enclose (.refl _) (.refl _)

/-- The dump of a scanner shows the names of the selected modes as they are. -/
theorem View.laidOut_dump (view : View) :
    LaidOut (7 + view.listedLines) [view.outputType, view.comparisonMode] view.dump := by
  have opening : LaidOut 1 [] "Scanner \x7b\n" := .refl _
  have closing : LaidOut 0 [] "\x7d" := .refl _
  -- the parts follow each other as in the dump, and only the selections show something
  have atCursor := (((opening.append
    (laidOut_dumpLine "text" (.refl _) (laidOut_quote view.text))).append
    (laidOut_dumpLine "pos" (.refl _) (laidOut_toString view.cursor.pos))).append
    (laidOut_dumpLine "last_pos" (.refl _) (laidOut_toString view.cursor.lastPos))).append
    (laidOut_dumpLine "last_match" (.refl _) (laidOut_quoteOrNull view.cursor.lastMatch))
  have selections := (atCursor.append
    (laidOut_dumpLine "output_type" (.refl _) (laidOut_selection view.outputType))).append
    (laidOut_dumpLine "comparison_mode" (.refl _) (laidOut_selection view.comparisonMode))
  have routines := ((selections.append
    (laidOut_dumpSection "pointers" (.refl _) view.pointers.toList fun entry =>
      laidOut_pointer entry.1 entry.2.pos)).append
    (laidOut_dumpSection "types" (.refl _) view.types laidOut_quote)).append
    (laidOut_dumpSection "macros" (.refl _) view.macros laidOut_quote)
  have modes := (routines.append
    (laidOut_dumpSection "output_types" (.refl _) view.outputTypes laidOut_quote)).append
    (laidOut_dumpSection "comparison_modes" (.refl _) view.comparisonModes laidOut_quote)
  have whole := (modes.append
    (laidOut_dumpSection "data" (.refl _) view.data.names laidOut_quote)).append closing
  -- one newline for each line in front of the listed parts; the last line has none
  have newlines : 7 + view.listedLines =
      7 + sectionLines view.pointers.toList.length + sectionLines view.types.length +
        sectionLines view.macros.length + sectionLines view.outputTypes.length +
        sectionLines view.comparisonModes.length + sectionLines view.data.names.length := by
    rw [listedLines]
    omega
  rw [newlines]
  exact whole

namespace Scanner

/-- The selected modes are listed by the dump, as they are registered. -/
theorem SelectsRegistered.mem_names {scanner : Scanner} (selects : scanner.SelectsRegistered) :
    scanner.outputType ∈ scanner.outputTypes.names ∧
      scanner.comparisonMode ∈ scanner.comparisonModes.names :=
  ⟨scanner.outputTypes.mem_names_iff.mpr selects.outputType,
    scanner.comparisonModes.mem_names_iff.mpr selects.comparisonMode⟩

/-- The dump of a scanner stands on the lines it was laid out on just if the names of the
selected modes have no character that ends or disturbs a line.  Newlines in these names are
further lines, and nothing else disturbs them than what stands in these names; all other
texts of the scanner may be what they like. -/
theorem dump_onLines_iff {text : String} {scanner : Scanner} (reachable : Reachable text scanner) :
    let view := scanner.view
    let lines := 8 + view.listedLines
    (OnLines lines view.dump ↔
      Unbroken scanner.outputType.toList ∧ Unbroken scanner.comparisonMode.toList) ∧
    lineCount view.dump =
      lines + scanner.outputType.toList.count '\n' + scanner.comparisonMode.toList.count '\n' ∧
    (∀ char ∈ view.dump.toList, breaksLine char = true → char = '\n' ∨
      char ∈ scanner.outputType.toList ∨ char ∈ scanner.comparisonMode.toList) ∧
    ((∀ name ∈ view.outputTypes ++ view.comparisonModes, Unbroken name.toList) →
      OnLines lines view.dump) := by
  intro view lines
  have laid : LaidOut (7 + view.listedLines) [scanner.outputType, scanner.comparisonMode]
      view.dump := view.laidOut_dump
  have layout : lines = 7 + view.listedLines + 1 := Nat.add_right_comm 7 1 view.listedLines
  have stands : OnLines lines view.dump ↔
      Unbroken scanner.outputType.toList ∧ Unbroken scanner.comparisonMode.toList := by
    rw [layout, laid.onLines_iff, List.forall_mem_cons, List.forall_mem_singleton]
  refine ⟨stands, ?_, ?_, ?_⟩
  · rw [laid.lineCount_eq, count_newline_breaksOf, ← layout, String.join_cons, String.join_cons,
      String.toList_append, String.toList_append, List.count_append, List.count_append]
    exact (Nat.add_assoc _ _ _).symm
  · intro char member breaking
    simpa using laid.mem_of_breaksLine member breaking
  · intro unbroken
    rcases reachable.selectsRegistered.mem_names with ⟨ofOutput, ofComparison⟩
    exact stands.mpr ⟨unbroken _ (List.mem_append_left _ ofOutput),
      unbroken _ (List.mem_append_right _ ofComparison)⟩

/-- All but the selected names break lines. -/
theorem dump_onLines_iff_of_broken_names :
    let idle : Routine := fun _ => .finish (.ok none)
    let never : ComparisonMode := { literal := fun _ _ => none, pattern := fun _ _ => none }
    let scanner := (new "t\nx").performAll (callWithin 1)
      [⟨_, .scanLiteral "t\n"⟩, ⟨_, .savePointer "p\r\nq"⟩, ⟨_, .addType "t\u2028" idle⟩,
        ⟨_, .addMacro "m\u2029" idle⟩, ⟨_, .addOutputType "o\n" fun _ => .null⟩,
        ⟨_, .addComparisonMode "c\u0085" never⟩, ⟨_, .putData "\x1b[2J" .null⟩,
        ⟨_, .setOutputType "full"⟩, ⟨_, .setComparisonMode "insensitive"⟩]
    scanner.cursor.lastMatch = some "t\n" ∧ OnLines 31 scanner.view.dump := by
  intro idle never scanner
  have reachable : Reachable "t\nx" scanner := Reachable.new.performAll 1 _
  rcases dump_onLines_iff reachable with ⟨stands, _⟩
  have output : Unbroken scanner.outputType.toList := by decide +kernel
  have comparison : Unbroken scanner.comparisonMode.toList := by decide +kernel
  have lines : 8 + scanner.view.listedLines = 31 := by decide +kernel
  rw [lines] at stands
  constructor
  · decide +kernel
  · exact stands.mpr ⟨output, comparison⟩

/-- A name with a newline is selected, and the line of its selection is two lines. -/
theorem dump_not_onLines_of_selected_newline :
    let scanner := (new "ab").performAll (callWithin 1)
      [⟨_, .addOutputType "a\nb" fun outcome => .boolean outcome.matched⟩,
        ⟨_, .setOutputType "a\nb"⟩]
    Reachable "ab" scanner ∧ 8 + scanner.view.listedLines = 22 ∧
      lineCount scanner.view.dump = 23 ∧ ¬OnLines 22 scanner.view.dump := by
  intro scanner
  have listed : scanner.view.listedLines = 14 := by decide +kernel
  have selected :
      (breaksOf [scanner.view.outputType, scanner.view.comparisonMode]).count '\n' = 1 := by
    decide +kernel
  have lines : lineCount scanner.view.dump = 23 := by
    rw [scanner.view.laidOut_dump.lineCount_eq, listed, selected]
  refine ⟨Reachable.new.performAll 1 _, congrArg (8 + ·) listed, lines, ?_⟩
  intro stands
  nomatch lines.symm.trans stands.lineCount_eq

end Scanner

/-! ## The dump of an outcome -/

/-- The texts that a kind shows as they are. -/
def MatchKind.unescaped : MatchKind → List String
  | type name => [name]
  | literal | pattern | enumeration => []

/-- The texts that a key shows as they are. -/
def EnumKey.unescaped : EnumKey → List String
  | literal _ => []
  | pattern expression => [expression.source]
  | type reference => [reference.name]

/-- The texts of an outcome that its dump shows as they are. -/
def Outcome.unescaped (outcome : Outcome) : List String :=
  outcome.kind.elim [] MatchKind.unescaped ++
    outcome.key.elim [] fun option => option.key.unescaped

theorem MatchKind.laidOut_display (kind : MatchKind) :
    LaidOut 0 kind.unescaped kind.display := by
  cases kind with
  | literal | pattern | enumeration => exact .refl _
  | type name =>
      have start : LaidOut 0 [] "type:" := .refl _
      exact start.append (laidOut_self name)

theorem TypeRef.laidOut_display (reference : TypeRef) :
    LaidOut 0 [reference.name] reference.display := by
  have opening : LaidOut 0 [] "[" := .refl _
  have closing : LaidOut 0 [] "]" := .refl _
  have args : ∀ text ∈ reference.args.map fun arg => ", " ++ arg.display,
      LaidOut 0 [] text := by
    intro text member
    rcases List.mem_map.mp member with ⟨arg, _, rfl⟩
    have separator : LaidOut 0 [] ", " := .refl _
    exact separator.append (laidOut_of_unbroken arg.unbroken_display)
  exact ((opening.append (laidOut_self reference.name)).append (laidOut_join args)).append closing

theorem Pattern.laidOut_display (pattern : Pattern) :
    LaidOut 0 [pattern.source] pattern.display :=
  (laidOut_self pattern.source).enclose (.refl _) (.refl _)

theorem EnumKey.laidOut_display (key : EnumKey) : LaidOut 0 key.unescaped key.display := by
  cases key with
  | literal text => exact laidOut_quote text
  | pattern expression => exact expression.laidOut_display
  | type reference => exact reference.laidOut_display

theorem ScanOption.laidOut_display (option : ScanOption) :
    LaidOut 0 option.key.unescaped option.display := by
  cases option with
  | literal text => exact laidOut_quote text
  | pattern expression => exact expression.laidOut_display
  | type reference => exact reference.laidOut_display
  | enumeration key value =>
      have opening : LaidOut 0 [] "[" := .refl _
      have separator : LaidOut 0 [] ", " := .refl _
      have closing : LaidOut 0 [] "]" := .refl _
      have ofValue : LaidOut 0 [] value.display := laidOut_of_unbroken value.unbroken_display
      simpa [display, ScanOption.key] using
        (((opening.append key.laidOut_display).append separator).append ofValue).append closing

/-- Something that may be absent shows what it shows, or null. -/
theorem laidOut_orNull {α : Type} {display : α → String} {unescaped : α → List String}
    (laid : ∀ item, LaidOut 0 (unescaped item) (display item)) (item : Option α) :
    LaidOut 0 (item.elim [] unescaped) ((item.map display).getD "null") := by
  have absent : LaidOut 0 [] "null" := .refl _
  cases item with
  | none => exact absent
  | some item => exact laid item

theorem MatchKind.laidOut_quoted (kind : MatchKind) :
    LaidOut 0 kind.unescaped ("\"" ++ kind.display ++ "\"") :=
  kind.laidOut_display.enclose (.refl _) (.refl _)

/-- The dump of an outcome, of whatever kind, shows pattern sources and type names as they
are. -/
theorem AdvancedOutput.laidOut_dump (output : AdvancedOutput View) :
    LaidOut 10 output.outcome.unescaped output.dump := by
  have opening : LaidOut 2 [] ("AdvancedOutput \x7b\n" ++ "  parent:       Scanner \x7b\n") :=
    .refl _
  have parentClosing : LaidOut 1 [] "  \x7d\n" := .refl _
  have closing : LaidOut 0 [] "\x7d" := .refl _
  have matched : LaidOut 0 [] (inspectBool output.outcome.matched) := by
    cases output.outcome.matched <;> exact .refl _
  have result : LaidOut 0 [] ((output.outcome.result.map Value.display).getD "null") := by
    cases output.outcome.result with
    | none => exact .refl _
    | some value => exact laidOut_of_unbroken value.unbroken_display
  have parent := ((opening.line "    text: " (.refl _) (laidOut_quote output.parent.text)).line
    "    pos:  " (.refl _) (laidOut_toString output.parent.cursor.pos)).append parentClosing
  have matchLines := ((parent.line "  matched:      " (.refl _) matched).line
    "  kind:         " (.refl _)
      (laidOut_orNull MatchKind.laidOut_quoted output.outcome.kind)).line
    "  key:          " (.refl _)
      (laidOut_orNull ScanOption.laidOut_display output.outcome.key)
  have whole := ((matchLines.line "  result:       " (.refl _) result).line
    "  text_matched: " (.refl _) (laidOut_quoteOrNull output.outcome.text)).append closing
  rw [List.append_nil, List.append_nil, List.append_nil] at whole
  exact whole

namespace Scanner

variable {scanner : Scanner} {call : Call} {options : List ScanOption} {outcome : Outcome}

/-- Under the advanced output type, what checks and scans hand out is an outcome of their
options together with a scanner. -/
theorem KeepsBuiltins.exists_of_answer (keeps : scanner.KeepsBuiltins)
    (selected : scanner.outputType = "advanced") {output : ScanOutput View}
    (answered : ((Command.check options).run call scanner).value.1 = .ok output ∨
      ((Command.scan options).run call scanner).value.1 = .ok output) :
    ∃ parent outcome, output = .advanced { parent, outcome } ∧
      (scanner.checkOutcome call options).value = .ok outcome := by
  have format : scanner.formatUnder scanner.outputType = .advanced := by
    rw [selected]
    exact keeps.formatUnder_eq (.tail _ (.tail _ (.head _)))
  rcases answered with answered | answered
  · rw [check_answer, format] at answered
    rcases map_eq_ok_iff.mp answered with ⟨outcome, checked, rfl⟩
    exact ⟨scanner.view, outcome, rfl, checked⟩
  · rw [scan_answer, format] at answered
    rcases map_eq_ok_iff.mp answered with ⟨outcome, checked, rfl⟩
    exact ⟨(scanner.commit outcome).value.view, outcome, rfl, checked⟩

/-- What a match shows as it is stands in the key of its option. -/
theorem Produces.unescaped_iff {option : ScanOption}
    (produced : scanner.Produces call option outcome) :
    (∀ part ∈ outcome.unescaped, Unbroken part.toList) ↔
      ∀ part ∈ option.key.unescaped, Unbroken part.toList := by
  cases produced with
  | literal | pattern => rfl
  | type => simp [Outcome.unescaped, MatchKind.unescaped, EnumKey.unescaped, ScanOption.key]
  | @enumeration key => cases key <;> rfl

/-- Under the advanced output type a check or scan that is no error gives an outcome with
its scanner.  The dump of a failure stands on eleven lines.  The dump of a match does so just
if the source of the pattern, or the name of the type, that its option is made of has no
character that ends or disturbs a line; their newlines are further lines, and nothing else
disturbs these.  Literals, arguments, values and the scanned text may be what they like. -/
theorem advanced_dump_onLines_iff {text : String} (reachable : Reachable text scanner)
    (selected : scanner.outputType = "advanced") (call : Call) (options : List ScanOption)
    {output : ScanOutput View}
    (answered : ((Command.check options).run call scanner).value.1 = .ok output ∨
      ((Command.scan options).run call scanner).value.1 = .ok output) :
    ∃ advanced : AdvancedOutput View, output = .advanced advanced ∧
      lineCount advanced.dump =
        11 + (String.join advanced.outcome.unescaped).toList.count '\n' ∧
      (∀ char ∈ advanced.dump.toList, breaksLine char = true → char = '\n' ∨
        ∃ part ∈ advanced.outcome.unescaped, char ∈ part.toList) ∧
      (advanced.outcome = .failure ∧ OnLines 11 advanced.dump ∨
        ∃ option ∈ options, scanner.Produces call option advanced.outcome ∧
          (OnLines 11 advanced.dump ↔
            ∀ part ∈ option.key.unescaped, Unbroken part.toList)) := by
  -- the name is built in, so its format is that of an outcome with its scanner
  rcases reachable.keepsBuiltins.exists_of_answer selected answered with
    ⟨parent, outcome, rfl, checked⟩
  have laid := AdvancedOutput.laidOut_dump { parent, outcome }
  refine ⟨_, rfl, ?_, ?_, ?_⟩
  · rw [laid.lineCount_eq, count_newline_breaksOf]
  · intro char member breaking
    exact laid.mem_of_breaksLine member breaking
  · rcases checkOutcome_eq_ok_iff.mp checked with
      ⟨rfl, _⟩ | ⟨before, option, after, rfl, _, produced⟩
    · left
      refine ⟨rfl, laid.onLines_iff.mpr ?_⟩
      intro part member
      nomatch member
    · right
      have listed : option ∈ before ++ option :: after :=
        List.mem_append_right _ List.mem_cons_self
      exact ⟨option, listed, produced, laid.onLines_iff.trans produced.unescaped_iff⟩

/-- Breaks in the scanned text, in an argument of a type, and in a name and an entry of the
value that an enum reports. -/
theorem advanced_dump_onLines_iff_of_broken_values :
    let word : Routine := fun _ => .finish (.ok (some "t\n"))
    let scanner := (new "t\nx").performAll (callWithin 2)
      [⟨_, .addType "word" word⟩, ⟨_, .setOutputType "advanced"⟩]
    let value : Value := .object [("k\r\n", .string "\u2028")]
    let options : List ScanOption := [.enumeration (.type ⟨"word", [.string "a\nb"]⟩) value]
    ∃ advanced : AdvancedOutput View,
      ((Command.scan options).run (callWithin 2) scanner).value.1 = .ok (.advanced advanced) ∧
        advanced.outcome.text = some "t\n" ∧ OnLines 11 advanced.dump := by
  intro word scanner value options
  have reachable : Reachable "t\nx" scanner := Reachable.new.performAll 2 _
  let outcome : Outcome := .substituted .enumeration (.type ⟨"word", [.string "a\nb"]⟩) "t\n" value
  have answered : ((Command.scan options).run (callWithin 2) scanner).value.1 =
      .ok (.advanced { parent := (scanner.commit outcome).value.view, outcome }) := rfl
  rcases advanced_dump_onLines_iff reachable rfl (callWithin 2) options (Or.inr answered) with
    ⟨advanced, same, _, _, ⟨failed, _⟩ | ⟨option, listed, _, stands⟩⟩
  · obtain rfl := ScanOutput.advanced.inj same
    nomatch congrArg Outcome.matched failed
  · obtain rfl := ScanOutput.advanced.inj same
    obtain rfl := List.mem_singleton.mp listed
    refine ⟨_, answered, rfl, stands.mpr ?_⟩
    intro part member
    obtain rfl := List.mem_singleton.mp member
    decide

/-- A pattern over two lines that compiles and matches. -/
theorem exists_compile_of_spread_source :
    ∃ pattern, Pattern.compile "(?x) a\n b" = .ok pattern ∧ pattern.source = "(?x) a\n b" ∧
      pattern.findPrefix? "ab" = some "ab" := by
  have made : ((Pattern.compile "(?x) a\n b").map fun pattern =>
      (pattern.source, pattern.findPrefix? "ab")).toOption =
        some ("(?x) a\n b", some "ab") := by
    decide +kernel
  cases compiled : Pattern.compile "(?x) a\n b" with
  | error error =>
      rw [compiled] at made
      nomatch made
  | ok pattern =>
      rw [compiled] at made
      rcases Prod.mk.inj (Option.some.inj made) with ⟨source, found⟩
      exact ⟨pattern, rfl, source, found⟩

/-- The name of a type stands in two lines of the dump, and the source of a pattern in one;
newlines in them are further lines. -/
theorem advanced_dump_not_onLines_of_newlines :
    let word : Routine := fun _ => .finish (.ok (some "ab"))
    let scanner := (new "ab").performAll (callWithin 1)
      [⟨_, .addType "w\nx" word⟩, ⟨_, .setOutputType "advanced"⟩]
    let answer (option : ScanOption) : Except ScannerError (ScanOutput View) :=
      ((Command.check [option]).run (callWithin 1) scanner).value.1
    Reachable "ab" scanner ∧ scanner.outputType = "advanced" ∧
      (∃ advanced, answer (.type ⟨"w\nx", []⟩) = .ok (.advanced advanced) ∧
        lineCount advanced.dump = 13 ∧ ¬OnLines 11 advanced.dump) ∧
      ∃ pattern, Pattern.compile "(?x) a\n b" = .ok pattern ∧
        ∃ advanced, answer (.pattern pattern) = .ok (.advanced advanced) ∧
          lineCount advanced.dump = 12 ∧ ¬OnLines 11 advanced.dump := by
  intro word scanner answer
  refine ⟨Reachable.new.performAll 1 _, rfl, ?_, ?_⟩
  · let outcome : Outcome := .success (.type "w\nx") (.type ⟨"w\nx", []⟩) "ab"
    have laid := AdvancedOutput.laidOut_dump { parent := scanner.view, outcome }
    have lines := laid.lineCount_eq
    refine ⟨_, rfl, lines, ?_⟩
    intro stands
    nomatch lines.symm.trans stands.lineCount_eq
  · rcases exists_compile_of_spread_source with ⟨pattern, compiled, source, found⟩
    let outcome : Outcome := .success .pattern (.pattern pattern) "ab"
    have proper : pattern.isEmpty = false := by
      rw [Pattern.isEmpty, source]
      decide
    have matched : scanner.activeMode.pattern pattern scanner.unscannedText = some "ab" := by
      have mode : scanner.activeMode = .normal := rfl
      have rest : scanner.unscannedText = "ab" := by decide +kernel
      rw [mode, rest]
      change ComparisonMode.nonEmpty (pattern.findPrefix? "ab") = some "ab"
      rw [found]
      rfl
    have checked : (scanner.checkOutcome (callWithin 1) [.pattern pattern]).value = .ok outcome :=
      checkOutcome_eq_ok_iff.mpr
        (Or.inr ⟨[], _, [], rfl, List.forall_mem_nil _, .pattern proper matched (by decide)⟩)
    have answered : answer (.pattern pattern) =
        .ok (.advanced { parent := scanner.view, outcome }) := by
      apply (check_answer (callWithin 1) scanner [.pattern pattern]).trans
      rw [checked]
      rfl
    have laid : LaidOut 10 [pattern.source] _ :=
      AdvancedOutput.laidOut_dump { parent := scanner.view, outcome }
    have lines := laid.lineCount_eq
    rw [source] at lines
    refine ⟨pattern, compiled, _, answered, lines, ?_⟩
    intro stands
    nomatch lines.symm.trans stands.lineCount_eq

end Scanner

end TextScanner
