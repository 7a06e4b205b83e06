import TextScanner.Proofs.Selection

/-!
# Checks and scans of a single option

Each kind of option has a check and a scan of its own.  They skip the list of
options, and hand over the text or the value of an outcome without asking whether
it is a match, while the cursor is moved only by what a match consumed.

An outcome that is no match carries neither text nor value, so nothing is handed
over that was not matched, and a list of one option goes on to its end with the
very same failure (`Search.value_checkOutcome_singleton`).  So these operations
answer and move as the list of that option alone does
(`Scanner.single_option_operations_eq_list`).
-/

namespace TextScanner

namespace Command

variable {call : Call} {scanner : Scanner} {option : ScanOption}

theorem value_run_checkOutcome_singleton (call : Call) (scanner : Scanner)
    (option : ScanOption) :
    ((checkOutcome [option]).run call scanner).value =
      ((Search.ofOption option).outcome call scanner, scanner) := by
  rw [← Search.value_checkOutcome_singleton]
  rfl

theorem value_run_scanOutcome_singleton (call : Call) (scanner : Scanner)
    (option : ScanOption) :
    ((scanOutcome [option]).run call scanner).value =
      ((Search.ofOption option).outcome call scanner,
        scanner.past ((Search.ofOption option).outcome call scanner)) := by
  apply Prod.ext
  · rw [scanOutcome_answer, Search.value_checkOutcome_singleton]
  · rw [run_of_scan? rfl, Search.outcome, Search.value_checkOutcome_singleton]

/-- Under the normal output type, a scan of one option hands over what the option
reports. -/
theorem value_run_scan_singleton (normal : scanner.formatUnder scanner.outputType = .normal)
    (call : Call) (option : ScanOption) :
    ((scan [option]).run call scanner).value =
      (((Search.ofOption option).outcome call scanner).map fun outcome =>
          .normal outcome.reported,
        scanner.past ((Search.ofOption option).outcome call scanner)) := by
  apply Prod.ext
  · rw [Scanner.scan_answer, normal, Search.value_checkOutcome_singleton]
    rfl
  · rw [run_of_scan? rfl, Search.outcome, Search.value_checkOutcome_singleton]

end Command

namespace Scanner

/-- A check and a scan of one option that hand over a part of its outcome.  They
give that part of the outcome of the list of the option alone, or its error, and
leave the scanner as the list does.  Under the normal output type, a scan of the
list presents the same part as a value. -/
structure HandsOver (call : Call) (scanner : Scanner) (option : ScanOption) {α : Type}
    (part : Outcome → Option α) (toValue : α → Value)
    (checked scanned : Except ScannerError (Option α) × Scanner) : Prop where
  checked_eq : checked =
    Prod.map (Except.map part) id ((Command.checkOutcome [option]).run call scanner).value
  scanned_eq : scanned =
    Prod.map (Except.map part) id ((Command.scanOutcome [option]).run call scanner).value
  presented_eq : ∀ ⦃text : String⦄, Reachable text scanner →
    scanner.outputType = OutputFormat.normalName →
    ((Command.scan [option]).run call scanner).value =
      Prod.map (Except.map fun found => .normal (found.map toValue)) id scanned

variable {call : Call} {scanner : Scanner} {option : ScanOption}

/-- A part of an outcome is handed over if it is what the outcome reports. -/
theorem handsOver_of_reported {α : Type} {part : Outcome → Option α} {toValue : α → Value}
    {checked scanned : Except ScannerError (Option α) × Scanner}
    (reported : ∀ ⦃outcome⦄, (Search.ofOption option).outcome call scanner = .ok outcome →
      outcome.reported = (part outcome).map toValue)
    (checked_eq : checked =
      (((Search.ofOption option).outcome call scanner).map part, scanner))
    (scanned_eq : scanned =
      (((Search.ofOption option).outcome call scanner).map part,
        scanner.past ((Search.ofOption option).outcome call scanner))) :
    scanner.HandsOver call option part toValue checked scanned where
  checked_eq := by
    rw [checked_eq, Command.value_run_checkOutcome_singleton]
    rfl
  scanned_eq := by
    rw [scanned_eq, Command.value_run_scanOutcome_singleton]
    rfl
  presented_eq := by
    intro text reachable selected
    have normal : scanner.formatUnder scanner.outputType = .normal := by
      rw [selected]
      exact reachable.keepsBuiltins.formatUnder_normalName
    rw [Command.value_run_scan_singleton normal, scanned_eq]
    cases searched : (Search.ofOption option).outcome call scanner with
    | error error => rfl
    | ok outcome =>
        simp only [Prod.map, Except.map, id_eq]
        rw [reported searched]

/-- The checks and scans of literals, patterns and types hand over the text of the
outcome of the list of that option alone, and those of enums its value.  They fail
with the same error and leave the same scanner.  Under the normal output type, a
scan of the list presents that text as a string, or that value, and nothing when
they hand over nothing. -/
theorem single_option_operations_eq_list (call : Call) (scanner : Scanner) :
    (∀ candidate,
      scanner.HandsOver call (.literal candidate) Outcome.text Value.string
        (Prod.map .ok id ((Command.checkLiteral candidate).run call scanner).value)
        (Prod.map .ok id ((Command.scanLiteral candidate).run call scanner).value)) ∧
    (∀ candidate,
      scanner.HandsOver call (.pattern candidate) Outcome.text Value.string
        (Prod.map .ok id ((Command.checkPattern candidate).run call scanner).value)
        (Prod.map .ok id ((Command.scanPattern candidate).run call scanner).value)) ∧
    (∀ name args,
      scanner.HandsOver call (.type { name, args }) Outcome.text Value.string
        ((Command.checkType name args).run call scanner).value
        ((Command.scanType name args).run call scanner).value) ∧
    (∀ key value,
      scanner.HandsOver call (.enumeration key value) Outcome.result id
        ((Command.checkEnum key value).run call scanner).value
        ((Command.scanEnum key value).run call scanner).value) := by
  refine ⟨?_, ?_, ?_, ?_⟩
  · intro candidate
    apply handsOver_of_reported
    · intro outcome searched
      obtain rfl := Except.ok.inj searched
      exact (scanner.resolveLiteral_plain candidate).reported_eq
    · rfl
    · rfl
  · intro candidate
    apply handsOver_of_reported
    · intro outcome searched
      obtain rfl := Except.ok.inj searched
      exact (scanner.resolvePattern_plain candidate).reported_eq
    · rfl
    · rfl
  · intro name args
    apply handsOver_of_reported
    · intro outcome searched
      exact (resolveType_plain searched).reported_eq
    · rfl
    · exact Prod.ext (Command.scanType_answer call scanner name args)
        (Command.run_of_scan? rfl call scanner)
  · intro key value
    apply handsOver_of_reported
    · intro outcome searched
      rw [Option.map_id]
      exact (Search.wellFormed_of_outcome _ searched).reported_eq
    · rfl
    · exact Prod.ext (Command.scanEnum_answer call scanner key value)
        (Command.run_of_scan? rfl call scanner)

/-- Under a mode that finds every literal: an enum that reports null for a type that
matches the empty text, one for a type that does not match, and a literal. -/
theorem single_option_operations_eq_list_of_null :
    let echo : ComparisonMode :=
      { literal := fun candidate _ => some candidate, pattern := fun _ _ => none }
    let blank : Routine := fun _ => .finish (.ok (some ""))
    let absent : Routine := fun _ =>
      .perform (.scanLiteral "") fun found => .finish (.ok found)
    let scanner := (new "añb").performAll (callWithin 2)
      [⟨_, .addType "blank" blank⟩, ⟨_, .addType "absent" absent⟩,
        ⟨_, .addComparisonMode "echo" echo⟩, ⟨_, .setComparisonMode "echo"⟩, ⟨_, .moveBy 1⟩]
    let scanning (name : String) := (Command.scanEnum (.type ⟨name, []⟩) .null).run
      (callWithin 2) scanner
    ((Command.scan [.enumeration (.type ⟨"blank", []⟩) .null]).run (callWithin 2) scanner).value =
        (.ok (.normal (some .null)), (scanning "blank").value.2) ∧
      (scanning "blank").value.2.cursor =
        { pos := 1, lastPos := 1, lastMatch := some "", offset := 1 } ∧
      ((Command.scan [.enumeration (.type ⟨"absent", []⟩) .null]).run (callWithin 2)
        scanner).value = (.ok (.normal none), scanner) ∧
      ((Command.scan [.literal "zz"]).run (callWithin 2) scanner).value.1 =
        .ok (.normal (some (.string "zz"))) := by
  intro echo blank absent scanner scanning
  have reachable : Reachable "añb" scanner := Reachable.new.performAll 2 _
  rcases single_option_operations_eq_list (callWithin 2) scanner with ⟨ofLiteral, _, _, ofEnum⟩
  refine ⟨?_, ?_, ?_, ?_⟩
  · exact (ofEnum (.type ⟨"blank", []⟩) .null).presented_eq reachable rfl
  · decide +kernel
  · exact (ofEnum (.type ⟨"absent", []⟩) .null).presented_eq reachable rfl
  · exact congrArg Prod.fst ((ofLiteral "zz").presented_eq reachable rfl)

end Scanner

end TextScanner
