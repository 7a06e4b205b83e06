import TextScanner.Proofs.Change

/-!
# What calls leave alone

Few calls touch the cursors that a scanner stores.  A call that answers with an
error leaves the whole scanner alone, unless it is a macro that failed on its way
(`Command.run_of_error`), and so does a scan that does not match
(`Command.run_of_not_matched`).  Changes of registries, modes and data leave all
stored cursors alone (`Command.configures_samePlaces`).
-/

namespace TextScanner

/-- The error of a result. -/
def errorOf? {α : Type} : Except ScannerError α → Option ScannerError
  | .ok _ => none
  | .error error => some error

/-- The error of an answer; answers of commands that cannot fail have none. -/
def Answer.error? : {kind : Kind} → Answer kind → Option ScannerError
  | .attempt, answer => errorOf? answer
  | .attemptText, answer => errorOf? answer
  | .attemptValue, answer => errorOf? answer
  | .attemptOutcome, answer => errorOf? answer
  | .attemptOutput, answer => errorOf? answer
  | .done, _ | .view, _ | .cursor, _ | .value, _ | .text, _ => none

namespace Command

variable {kind : Kind} {command : Command kind} {call : Call} {scanner : Scanner}

/-- Whether a scan matches.  Commands that are no scans have no such report, and
neither have scans that fail with an error. -/
def matched? (call : Call) (scanner : Scanner) (command : Command kind) : Option Bool :=
  match command.scan?.map (Search.outcome call scanner) with
  | some (.ok outcome) => some outcome.matched
  | _ => none

theorem matched?_eq_some_iff {report : Bool} :
    command.matched? call scanner = some report ↔
      ∃ search outcome, command.scan? = some search ∧
        search.outcome call scanner = .ok outcome ∧ outcome.matched = report := by
  unfold matched?
  cases command.scan? with
  | none => simp
  | some search =>
      cases searched : search.outcome call scanner with
      | error error => simp [searched]
      | ok outcome => simp [searched]

/-- A scan that does not match leaves the scanner alone, whether or not it fails
with an error. -/
theorem run_of_not_matched {search : Search} (scans : command.scan? = some search)
    (missed : command.matched? call scanner ≠ some true) :
    (command.run call scanner).value.2 = scanner := by
  rw [run_of_scan? scans]
  cases searched : search.outcome call scanner with
  | error error => rfl
  | ok outcome =>
      have unmatched : outcome.matched = false := by
        rw [← Bool.not_eq_true]
        intro isMatch
        exact missed (matched?_eq_some_iff.mpr ⟨search, outcome, scans, searched, isMatch⟩)
      rw [Scanner.past_ok, Scanner.commit, Outcome.consumed, unmatched]
      rfl

/-- A scan that matches advances the scanner over a text. -/
theorem run_of_matched (matched : command.matched? call scanner = some true) :
    ∃ text, (command.run call scanner).value.2 = (scanner.advanceOver text).value := by
  rcases matched?_eq_some_iff.mp matched with ⟨search, outcome, scans, searched, isMatch⟩
  rw [run_of_scan? scans, searched, Scanner.past_ok, Scanner.commit]
  cases search.wellFormed_of_outcome searched with
  | failure => simp [Outcome.failure] at isMatch
  | substituted kind key text result => exact ⟨text, rfl⟩

/-! ## Errors -/

/-- A macro is run on the scanner itself. -/
theorem run_runMacro_of_known {name : String} {routine : Routine}
    (known : scanner.macros.find? name = some routine) (call : Call) (args : List Value) :
    ((runMacro name args).run call scanner).value =
      Prod.map (Except.map fun _ => ()) id (call routine args scanner).value := by
  simp only [run, Scanner.runMacro, known]
  rfl

theorem run_runMacro_of_unknown {name : String} (unknown : scanner.macros.find? name = none)
    (call : Call) (args : List Value) :
    ((runMacro name args).run call scanner).value = (.error (.unknownMacro name), scanner) := by
  simp only [run, Scanner.runMacro, unknown]
  rfl

/-- Whether a command runs a macro that is registered. -/
def runsMacro (scanner : Scanner) : {kind : Kind} → Command kind → Bool
  | _, .runMacro name _ => scanner.macros.contains name
  | _, _ => false

theorem runMacro_of_unknown {name : String} (args : List Value)
    (unknown : (runMacro name args).runsMacro scanner = false) :
    ((runMacro name args).run call scanner).value.2 = scanner := by
  simp only [runsMacro, Table.contains, Option.isSome_eq_false_iff,
    Option.isNone_iff_eq_none] at unknown
  rw [run_runMacro_of_unknown unknown]

theorem settle_of_error {attempt : Attempt Scanner} {error : ScannerError}
    (failed : errorOf? (settle scanner attempt).value.1 = some error) :
    (settle scanner attempt).value.2 = scanner := by
  simp only [settle, Logged.value_map] at failed ⊢
  cases result : attempt.value with
  | error _ => rfl
  | ok changed => simp [result, errorOf?] at failed

theorem settleWith_of_error {α : Type} {attempt : Attempt (α × Scanner)} {error : ScannerError}
    (failed : errorOf? (settleWith scanner attempt).value.1 = some error) :
    (settleWith scanner attempt).value.2 = scanner := by
  simp only [settleWith, Logged.value_map] at failed ⊢
  cases result : attempt.value with
  | error _ => rfl
  | ok changed => simp [result, errorOf?] at failed

/-- A call that answers with an error leaves the scanner alone, whatever ran on
copies of it before it failed.  Only a macro, which runs on the scanner itself,
may fail halfway. -/
theorem run_of_error {error : ScannerError}
    (failed : Answer.error? (command.run call scanner).value.1 = some error)
    (noMacro : command.runsMacro scanner = false) :
    (command.run call scanner).value.2 = scanner := by
  cases command
  case runMacro name args => exact runMacro_of_unknown args noMacro
  case loadPointer | removeType | removeMacro | setOutputType | setComparisonMode =>
      exact settle_of_error failed
  case scanOutcome | scan | scanEnum | scanType => exact settleWith_of_error failed
  case checkOutcome | check | checkEnum | checkType | onDuplicate => rfl
  all_goals exact absurd failed (by simp [Answer.error?])

/-! ## Registries, modes and data -/

/-- Whether a command concerns registries, modes or data. -/
def configures : {kind : Kind} → Command kind → Bool
  | _, .addType _ _ | _, .removeType _ | _, .addMacro _ _ | _, .removeMacro _
  | _, .addOutputType _ _ | _, .setOutputType _ | _, .addComparisonMode _ _
  | _, .setComparisonMode _ | _, .putData _ _ | _, .dropData _ => true
  | _, _ => false

end Command

namespace Scanner

variable {scanner changed : Scanner} {name : String}

theorem eq_of_setOutputType (selected : (scanner.setOutputType name).value = .ok changed) :
    changed = { scanner with outputType := name } := by
  unfold setOutputType at selected
  split at selected
  · exact (Except.ok.inj selected).symm
  · simp at selected

theorem eq_of_setComparisonMode
    (selected : (scanner.setComparisonMode name).value = .ok changed) :
    changed = { scanner with comparisonMode := name } := by
  unfold setComparisonMode at selected
  split at selected
  · exact (Except.ok.inj selected).symm
  · simp at selected

/-- A scanner made with options differs from one made without in its modes. -/
theorem eq_of_withOptions {text : String} {options : ScannerOptions}
    (made : (withOptions text options).value = .ok changed) :
    changed =
      { new text with
        outputType := options.outputType
        comparisonMode := options.comparisonMode } := by
  rcases Attempt.value_andThen_eq_ok_iff.mp made with ⟨presenting, first, second⟩
  rw [eq_of_setComparisonMode second, eq_of_setOutputType first]

/-- Two scanners for the same text that store the same cursors. -/
structure SamePlaces (scanner changed : Scanner) : Prop where
  text : changed.text = scanner.text
  cursor : changed.cursor = scanner.cursor
  undoCursor : changed.undoCursor = scanner.undoCursor
  pointers : changed.pointers = scanner.pointers

theorem SamePlaces.cursors (same : scanner.SamePlaces changed) :
    changed.cursor = scanner.cursor ∧ changed.undoCursor = scanner.undoCursor :=
  ⟨same.cursor, same.undoCursor⟩

end Scanner

namespace Command

variable {kind : Kind} {command : Command kind}

/-- Changes of registries, modes and data leave all stored cursors alone. -/
theorem configures_samePlaces (configures : command.configures = true) (call : Call)
    (scanner : Scanner) : scanner.SamePlaces (command.run call scanner).value.2 := by
  cases command
  case addType | addMacro | addComparisonMode | putData | dropData =>
      exact ⟨rfl, rfl, rfl, rfl⟩
  case addOutputType name render =>
      simp only [run, done, Logged.value_map, Scanner.addOutputType]
      split <;> exact ⟨rfl, rfl, rfl, rfl⟩
  case removeType | removeMacro | setOutputType | setComparisonMode =>
      simp only [run, value_settle, Scanner.removeType, Scanner.removeMacro,
        Scanner.setOutputType, Scanner.setComparisonMode]
      split <;> exact ⟨rfl, rfl, rfl, rfl⟩
  all_goals simp [Command.configures] at configures

/-! ## Pointers -/

/-- Loading a pointer that exists moves the cursor there. -/
theorem run_loadPointer_of_known (call : Call) {scanner : Scanner} {name : String}
    {saved : Cursor} (known : scanner.pointers.find? name = some saved) :
    ((loadPointer name).run call scanner).value =
      (.ok (), { scanner with cursor := saved, undoCursor := scanner.cursor }) := by
  simp only [run, settle, Logged.value_map, Scanner.loadPointer, known]
  rfl

theorem run_loadPointer_of_unknown (call : Call) {scanner : Scanner} {name : String}
    (unknown : scanner.pointers.contains name = false) :
    ((loadPointer name).run call scanner).value.2 = scanner := by
  rw [Table.contains, Option.isSome_eq_false_iff, Option.isNone_iff_eq_none] at unknown
  simp only [run, value_settle, Scanner.loadPointer, unknown]
  rfl

end Command

end TextScanner
