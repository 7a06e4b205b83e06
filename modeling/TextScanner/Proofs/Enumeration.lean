import TextScanner.Proofs.Presentation
import TextScanner.Proofs.Provenance

/-!
# Enums and their keys

An enum resolves as its key does as a plain option, except that a match reports the value
of the enum (`Scanner.value_resolve_enumeration`).  It consumes what its key consumes, and
so a scan moves the cursor as the keys of its options say, whatever values the enums among
them have (`Command.run_eq_of_keys`).

Keys are the options that are no enums (`ScanOption.toKey?_cases`).
-/

namespace TextScanner

/-- An outcome of a key as an enum reports it: a match of its own kind, with a value of its
own. -/
def Outcome.reporting (value : Value) (outcome : Outcome) : Outcome :=
  if outcome.matched then { outcome with kind := some .enumeration, result := some value }
  else outcome

/-- Only enums are refused as keys of enums. -/
theorem ScanOption.enumerate?_eq_error_iff {option : ScanOption} {value : Value}
    {error : ScannerError} :
    option.enumerate? value = .error error ↔
      error = .nestedEnum ∧ ∃ key inner, option = .enumeration key inner := by
  rw [enumerate?, map_eq_error_iff]
  rcases option.toKey?_cases with ⟨key, rfl, converted⟩ | ⟨key, inner, rfl, converted⟩
  · rw [converted]
    cases key <;> simp [EnumKey.toOption]
  · rw [converted]
    constructor
    · intro failed
      exact ⟨(Except.error.inj failed).symm, key, inner, rfl⟩
    · rintro ⟨rfl, _⟩
      rfl

theorem EnumKey.enumerate?_toOption (key : EnumKey) (value : Value) :
    key.toOption.enumerate? value = .ok (.enumeration key value) := by
  rw [ScanOption.enumerate?, ScanOption.toKey?_toOption]
  rfl

theorem EnumKey.key_toOption (key : EnumKey) : key.toOption.key = key := by
  cases key <;> rfl

namespace Scanner

variable {call : Call} {scanner : Scanner}

/-- What a key matches, it names and reports as the text it consumed. -/
theorem eq_success_of_produces_key {key : EnumKey} {outcome : Outcome}
    (produced : scanner.Produces call key.toOption outcome) :
    ∃ kind text, outcome = .success kind key.toOption text := by
  cases key <;> cases produced <;> exact ⟨_, _, rfl⟩

/-- An enum resolves as its key does, and reports its own value of a match. -/
theorem value_resolve_enumeration (call : Call) (scanner : Scanner) (key : EnumKey)
    (value : Value) :
    (scanner.resolve call (.enumeration key value)).value =
      (scanner.resolve call key.toOption).value.map (Outcome.reporting value) := by
  have asKey : (scanner.resolve call (.enumeration key value)).value =
      (scanner.resolve call key.toOption).value.map (enumOutcome key value) := by
    rw [Search.value_resolve, value_resolve_toOption]
    rfl
  rw [asKey]
  cases resolved : (scanner.resolve call key.toOption).value with
  | error error => rfl
  | ok inner =>
      cases matched : inner.matched with
      | true =>
          rcases eq_success_of_produces_key (produces_iff.mpr ⟨resolved, matched⟩) with
            ⟨kind, text, rfl⟩
          rfl
      | false =>
          rw [Search.value_resolve] at resolved
          rw [(Search.wellFormed_of_outcome _ resolved).eq_failure matched]
          rfl

/-! ## What scans consume -/

/-- What the first key consumes that does not fail, or its error. -/
def consumedFirst (call : Call) (scanner : Scanner) :
    List EnumKey → Except ScannerError (Option String)
  | [] => .ok none
  | key :: rest =>
      match (scanner.resolveKey call key).value.map Outcome.consumed with
      | .ok none => scanner.consumedFirst call rest
      | decided => decided

theorem map_consumed_ofOption (call : Call) (scanner : Scanner) (option : ScanOption) :
    ((Search.ofOption option).outcome call scanner).map Outcome.consumed =
      (scanner.resolveKey call option.key).value.map Outcome.consumed := by
  cases option with
  | literal | pattern | type => rfl
  | enumeration key value =>
      rw [Search.ofOption, Search.outcome, value_resolveEnum, ScanOption.key]
      cases (scanner.resolveKey call key).value with
      | error error => rfl
      | ok inner => exact congrArg Except.ok (consumed_enumOutcome key value inner)

theorem map_consumed_checkOutcome (call : Call) (scanner : Scanner)
    (options : List ScanOption) :
    (scanner.checkOutcome call options).value.map Outcome.consumed =
      scanner.consumedFirst call (options.map ScanOption.key) := by
  induction options with
  | nil => rfl
  | cons option rest ih =>
      rw [List.map_cons, consumedFirst, ← map_consumed_ofOption, ← ih,
        Search.value_checkOutcome_cons]
      cases tried : (Search.ofOption option).outcome call scanner with
      | error error => rfl
      | ok outcome =>
          -- an outcome that consumes nothing is the failure, and the list goes on
          cases Search.wellFormed_of_outcome _ tried <;> rfl

/-- A search consumes what its keys say. -/
theorem map_consumed_outcome (call : Call) (scanner : Scanner) (search : Search) :
    (search.outcome call scanner).map Outcome.consumed =
      scanner.consumedFirst call search.keys := by
  have alone (key : EnumKey) : scanner.consumedFirst call [key] =
      (scanner.resolveKey call key).value.map Outcome.consumed := by
    rw [consumedFirst]
    rcases (scanner.resolveKey call key).value.map Outcome.consumed with error | consumed
    · rfl
    · cases consumed <;> rfl
  cases search with
  | firstOf options => exact map_consumed_checkOutcome call scanner options
  | literal candidate => exact (alone (.literal candidate)).symm
  | pattern candidate => exact (alone (.pattern candidate)).symm
  | type reference => exact (alone (.type reference)).symm
  | enumeration key value =>
      exact (map_consumed_ofOption call scanner (.enumeration key value)).trans (alone key).symm

/-- What is left of a scanner after a search follows from what that consumed. -/
theorem past_congr {result other : Except ScannerError Outcome}
    (same : result.map Outcome.consumed = other.map Outcome.consumed) :
    scanner.past result = scanner.past other := by
  rcases result with error | outcome <;> rcases other with otherError | otherOutcome
  · rfl
  · nomatch same
  · nomatch same
  · have consumed : outcome.consumed = otherOutcome.consumed := Except.ok.inj same
    rw [past_ok, past_ok, commit, commit, consumed]

end Scanner

/-- Scans for the same keys leave the same scanner. -/
theorem Command.run_eq_of_keys {kind otherKind : Kind} {command : Command kind}
    {other : Command otherKind} {search otherSearch : Search}
    (scans : command.scan? = some search) (otherScans : other.scan? = some otherSearch)
    (sameKeys : search.keys = otherSearch.keys) (call : Call) (scanner : Scanner) :
    (command.run call scanner).value.2 = (other.run call scanner).value.2 := by
  rw [run_of_scan? scans, run_of_scan? otherScans]
  apply Scanner.past_congr
  rw [Scanner.map_consumed_outcome, Scanner.map_consumed_outcome, sameKeys]

namespace Scanner

/-! ## What an enum presents -/

/-- What an enum reports of the outcome of its key. -/
theorem reported_reporting (value : Value) (outcome : Outcome) :
    (outcome.reporting value).reported = if outcome.matched then some value else none := by
  cases matched : outcome.matched <;> simp [Outcome.reporting, Outcome.reported, matched]

/-- An enum alone in a list has the outcome of its key, with its own value. -/
theorem value_checkOutcome_enumeration (call : Call) (scanner : Scanner) (key : EnumKey)
    (value : Value) :
    (scanner.checkOutcome call [.enumeration key value]).value =
      (scanner.resolve call key.toOption).value.map (Outcome.reporting value) := by
  rw [Search.value_checkOutcome_singleton, ← Search.value_resolve, value_resolve_enumeration]

variable {text : String} {scanner : Scanner}

/-- Under a built-in output type, a check of an enum presents its value on a match. -/
theorem Reachable.check_enumeration (reachable : Reachable text scanner)
    (builtin : OutputFormat.isBuiltin scanner.outputType = true) (call : Call) (key : EnumKey)
    (value : Value) :
    (scanner.check call [.enumeration key value]).value.map ScanOutput.toValue? =
      (scanner.resolve call key.toOption).value.map fun inner =>
        if inner.matched then some value else none := by
  rw [value_check, value_checkOutcome_enumeration]
  cases (scanner.resolve call key.toOption).value with
  | error error => rfl
  | ok inner =>
      simp only [Except.map]
      rw [reachable.keepsBuiltins.toValue?_present builtin, reported_reporting]

/-- And so does a scan. -/
theorem Reachable.scan_enumeration (reachable : Reachable text scanner)
    (builtin : OutputFormat.isBuiltin scanner.outputType = true) (call : Call) (key : EnumKey)
    (value : Value) :
    ((scanner.scan call [.enumeration key value]).value.map fun found => found.1.toValue?) =
      (scanner.resolve call key.toOption).value.map fun inner =>
        if inner.matched then some value else none := by
  rw [value_scan, value_checkOutcome_enumeration]
  cases (scanner.resolve call key.toOption).value with
  | error error => rfl
  | ok inner =>
      have behind := (reachable.commit (inner.reporting value)).keepsBuiltins
      rw [← (scanner.outputTypes_commit (inner.reporting value)).2] at builtin
      simp only [Except.map]
      rw [behind.toValue?_present builtin, reported_reporting]

/-- An enum resolves as its key does as a plain option: with the same error, or with the
same outcome, but that a match is of its own kind and reports its own value.  So scans
leave the same scanner for the key and for enums over it with any value, and so do any two
scans, of lists or single options, whose options have the same keys; and built-in output
types present the value of the enum just on a match.  Every option that is no enum is a
key, from which it comes back unchanged, and of which an enum can be built; of an enum
none can. -/
theorem enum_is_key_with_value (call : Call) (scanner : Scanner) :
    (∀ key value, (scanner.resolve call (.enumeration key value)).value =
      (scanner.resolve call key.toOption).value.map (Outcome.reporting value)) ∧
    (∀ key value,
      ((Command.scanOutcome [.enumeration key value]).run call scanner).value.2 =
        ((Command.scanOutcome [key.toOption]).run call scanner).value.2 ∧
      ((Command.scan [.enumeration key value]).run call scanner).value.2 =
        ((Command.scanOutcome [key.toOption]).run call scanner).value.2 ∧
      ((Command.scanEnum key value).run call scanner).value.2 =
        ((Command.scanOutcome [key.toOption]).run call scanner).value.2) ∧
    (∀ {kind otherKind : Kind} (command : Command kind) (other : Command otherKind)
        (search otherSearch : Search),
      command.scan? = some search → other.scan? = some otherSearch →
      search.keys = otherSearch.keys →
      (command.run call scanner).value.2 = (other.run call scanner).value.2) ∧
    (∀ text, Reachable text scanner → OutputFormat.isBuiltin scanner.outputType = true →
      ∀ key value,
        (scanner.check call [.enumeration key value]).value.map ScanOutput.toValue? =
          ((scanner.resolve call key.toOption).value.map fun inner =>
            if inner.matched then some value else none) ∧
        ((scanner.scan call [.enumeration key value]).value.map fun found => found.1.toValue?) =
          ((scanner.resolve call key.toOption).value.map fun inner =>
            if inner.matched then some value else none)) ∧
    (∀ option : ScanOption, (∀ key value, option ≠ .enumeration key value) →
      ∃ key : EnumKey, option.toKey? = .ok key ∧ key.toOption = option ∧
        ∀ value, option.enumerate? value = .ok (.enumeration key value)) ∧
    (∀ key : EnumKey, key.toOption.toKey? = .ok key) ∧
    (∀ (option : ScanOption) (value : Value) (error : ScannerError),
      option.enumerate? value = .error error ↔
        error = .nestedEnum ∧ ∃ key inner, option = .enumeration key inner) := by
  refine ⟨value_resolve_enumeration call scanner, ?_, ?_, ?_, ?_,
    ScanOption.toKey?_toOption, ?_⟩
  · intro key value
    have sameKeys : [key] = [key.toOption.key] := by rw [key.key_toOption]
    refine ⟨?_, ?_, ?_⟩
    all_goals
      apply Command.run_eq_of_keys rfl rfl
      exact sameKeys
  · intro kind otherKind command other search otherSearch scans otherScans sameKeys
    exact Command.run_eq_of_keys scans otherScans sameKeys call scanner
  · intro text reachable builtin key value
    exact ⟨reachable.check_enumeration builtin call key value,
      reachable.scan_enumeration builtin call key value⟩
  · intro option plain
    rcases option.toKey?_cases with ⟨key, rfl, converted⟩ | ⟨key, value, same, _⟩
    · exact ⟨key, converted, rfl, key.enumerate?_toOption⟩
    · exact absurd same (plain key value)
  · intro option value error
    exact ScanOption.enumerate?_eq_error_iff

/-- A type that matches the empty text as the key of an enum that reports null, and one that
fails on its copy. -/
theorem enum_is_key_with_value_of_null :
    let blank : Routine := fun _ => .perform (.moveBy 1) fun _ => .finish (.ok (some ""))
    let broken : Routine := fun _ =>
      .perform (.loadPointer "there") fun answer => .finish (answer.map fun _ => none)
    let scanner := (new "añb").performAll (callWithin 2)
      [⟨_, .addType "blank" blank⟩, ⟨_, .addType "broken" broken⟩, ⟨_, .moveBy 1⟩,
        ⟨_, .setOutputType "full"⟩]
    let key : EnumKey := .type ⟨"blank", []⟩
    let scanned (options : List ScanOption) :=
      ((Command.scanOutcome options).run (callWithin 2) scanner).value.2
    (scanner.check (callWithin 2) [.enumeration key .null]).value.map ScanOutput.toValue? =
        .ok (some .null) ∧
      scanned [.literal "", .enumeration key .null] = scanned [.literal "", key.toOption] ∧
      (scanned [key.toOption]).cursor.lastMatch = some "" ∧
      (scanner.resolve (callWithin 2) (.enumeration (.type ⟨"broken", []⟩) .null)).value =
        .error (.unknownPointer "there") ∧
      (ScanOption.enumeration key .null).enumerate? .null = .error .nestedEnum := by
  intro blank broken scanner key scanned
  have reachable : Reachable "añb" scanner := Reachable.new.performAll 2 _
  rcases enum_is_key_with_value (callWithin 2) scanner with
    ⟨ofKey, _, ofKeys, ofOutput, _, _, nested⟩
  refine ⟨?_, ?_, ?_, ?_, ?_⟩
  · exact (ofOutput "añb" reachable rfl key .null).1
  · exact ofKeys (.scanOutcome _) (.scanOutcome _) _ _ rfl rfl rfl
  · decide +kernel
  · exact ofKey (.type ⟨"broken", []⟩) .null
  · exact (nested _ .null .nestedEnum).mpr ⟨rfl, key, .null, rfl⟩

end Scanner

end TextScanner
