import TextScanner.Proofs.FullReset
import TextScanner.Proofs.Lookup
import TextScanner.Proofs.Selection

/-!
# How outcomes are presented

Checks and scans try their options without regard to the active output type, and only
then present the outcome (`Scanner.value_check`, `Scanner.value_scan`).  The formats that
are built in all present the value that the outcome reports
(`OutputFormat.toValue?_compose`); the full and the advanced one keep the outcome too.

Any other output type presents what a function makes of the outcome: the one that was
registered last under its name, on the scanner itself or, if the scanner is a copy, on
what it was copied from (`Scanner.find?_outputTypes_performAll`).
-/

namespace TextScanner

/-- A name is built in just if a format was made for it. -/
theorem OutputFormat.isBuiltin_iff {name : String} :
    OutputFormat.isBuiltin name = true ↔ ∃ format, (name, format) ∈ OutputFormat.builtins := by
  simp [OutputFormat.isBuiltin]

/-- A well-formed outcome that is no match reports nothing, and a match reports something,
even if that is null. -/
theorem Outcome.WellFormed.reported_eq_none_iff {outcome : Outcome}
    (wellFormed : outcome.WellFormed) : outcome.reported = none ↔ outcome.matched = false := by
  cases wellFormed <;> simp [Outcome.reported, Outcome.failure, Outcome.substituted]

/-! ## Registered output types -/

/-- The function that a command registers as an output type of a name. -/
def Command.render? (name : String) : {kind : Kind} → Command kind → Option (Outcome → Value)
  | _, .addOutputType added render => if added = name then some render else none
  | _, _ => none

namespace Scanner

/-- The function that was last registered as an output type of a name in a history. -/
def latestRender? (name : String) (history : List Exchange) : Option (Outcome → Value) :=
  (history.filterMap fun exchange => exchange.command.2.render? name).getLast?

variable {text name : String} {scanner : Scanner} {outcome : Outcome}

/-- Under a name that is not built in, a direct command registers what it is given. -/
theorem find?_outputTypes_run (registrable : OutputFormat.isBuiltin name = false) {kind : Kind}
    {command : Command kind} (direct : command.direct = true) (call : Call)
    (scanner : Scanner) :
    (command.run call scanner).value.2.outputTypes.find? name =
      ((command.render? name).map fun render => some (OutputFormat.custom render)).getD
        (scanner.outputTypes.find? name) := by
  cases command
  case addOutputType added render =>
      simp only [Command.run, Command.done, Logged.value_map, addOutputType, Command.render?]
      cases builtin : OutputFormat.isBuiltin added with
      | true =>
          have different : added ≠ name := by
            rintro rfl
            simp [builtin] at registrable
          simp [different]
      | false =>
          simp only [Bool.false_eq_true, if_false, Logged.value_note, Table.find?_insert]
          split <;> rfl
  case addComparisonMode => rfl
  all_goals
    -- all other commands are undone by a full reset, which keeps the output types
    exact congrArg (fun cleared => cleared.outputTypes.find? name)
      (Command.cleared_run_of_not_registersMode direct rfl call scanner)

/-- After a run, there stands under a name that is not built in the function that was
registered last, or what stood there before. -/
theorem find?_outputTypes_performAll (registrable : OutputFormat.isBuiltin name = false)
    (depth : Nat) (scanner : Scanner) (commands : List AnyCommand) :
    (scanner.performAll (callWithin depth) commands).outputTypes.find? name =
      ((latestRender? name (scanner.history depth commands)).map OutputFormat.custom).or
        (scanner.outputTypes.find? name) := by
  have written := read_performAll_eq_lastWrite
    (fun scanner => scanner.outputTypes.find? name)
    (fun exchange => (exchange.command.2.render? name).map fun render =>
      some (OutputFormat.custom render))
    (fun direct => find?_outputTypes_run registrable direct) depth scanner commands
  refine written.trans ?_
  rw [latestRender?, ← List.map_filterMap, List.getLast?_map]
  cases ((scanner.history depth commands).filterMap _).getLast? <;> rfl

/-- A scanner that was made for a text has no other output types than those that are built
in. -/
theorem find?_outputTypes_of_made (registrable : OutputFormat.isBuiltin name = false)
    (made : scanner = new text ∨ ∃ options, (withOptions text options).value = .ok scanner) :
    scanner.outputTypes.find? name = none := by
  have asNew : scanner.outputTypes = .ofList OutputFormat.builtins := by
    rcases made with rfl | ⟨options, made⟩
    · rfl
    · rw [eq_of_withOptions made]
      rfl
  rw [asNew]
  cases found : (Table.ofList OutputFormat.builtins).find? name with
  | none => rfl
  | some format =>
      have member := Table.mem_of_mem_toList_ofList ((Table.mem_toList_iff _).mpr found)
      rw [OutputFormat.isBuiltin_iff.mpr ⟨format, member⟩] at registrable
      nomatch registrable

/-- Whatever stands under a name that is not built in renders outcomes by a function. -/
theorem Reachable.custom_of_not_builtin (reachable : Reachable text scanner)
    (registrable : OutputFormat.isBuiltin name = false) {format : OutputFormat}
    (found : scanner.outputTypes.find? name = some format) : ∃ render, format = .custom render := by
  refine reachable.invariant (motive := fun scanner => ∀ format,
    scanner.outputTypes.find? name = some format → ∃ render, format = .custom render)
    ?_ ?_ format found
  · intro format found
    rw [find?_outputTypes_of_made registrable (Or.inl rfl)] at found
    nomatch found
  · intro scanner changed change custom format found
    cases change with
    | addOutputType render =>
        rcases Table.find?_insert_cases found with rfl | earlier
        · exact ⟨render, rfl⟩
        · exact custom format earlier
    | reset full => cases full <;> exact custom format found
    | _ => exact custom format found

/-! ## What is handed out -/

/-- An output presents an outcome as the active output type of a scanner says, if the
given format stands under its name.

Under a built-in output type the value is that of a match, and there is one just for a
match.  The full and the advanced type keep the outcome, and the advanced one gives the
scanner on a match.  Any other type makes of the outcome what its function does. -/
structure HandsOut (scanner : Scanner) (format? : Option OutputFormat) (outcome : Outcome)
    (output : ScanOutput Scanner) : Prop where
  value_eq : OutputFormat.isBuiltin scanner.outputType = true →
    output.toValue? = if outcome.matched then outcome.result else none
  value_eq_none_iff : OutputFormat.isBuiltin scanner.outputType = true →
    (output.toValue? = none ↔ outcome.matched = false)
  outcome_eq : scanner.outputType = "full" ∨ scanner.outputType = "advanced" →
    output.toOutcome? = some outcome
  then_eq : scanner.outputType = "advanced" →
    ∃ wrapper, output.toAdvanced? = some wrapper ∧
      wrapper.then? = if outcome.matched then some scanner else none
  rendered : OutputFormat.isBuiltin scanner.outputType = false →
    ∃ render, format? = some (.custom render) ∧ output = .custom (render outcome)

/-- Under a built-in output type the format does not matter. -/
theorem HandsOut.of_format {format? other? : Option OutputFormat} {output : ScanOutput Scanner}
    (hands : scanner.HandsOut format? outcome output)
    (same : OutputFormat.isBuiltin scanner.outputType = false → format? = other?) :
    scanner.HandsOut other? outcome output :=
  { hands with
    rendered := by
      intro registrable
      rw [← same registrable]
      exact hands.rendered registrable }

theorem present_eq_compose (scanner : Scanner) (outcome : Outcome) :
    scanner.present outcome =
      (scanner.formatUnder scanner.outputType).compose scanner outcome :=
  rfl

/-- A built-in output type presents outcomes by the format that was made for it. -/
theorem KeepsBuiltins.present_eq (keeps : scanner.KeepsBuiltins) {entry : String × OutputFormat}
    (member : entry ∈ OutputFormat.builtins) (selected : scanner.outputType = entry.1)
    (outcome : Outcome) : scanner.present outcome = entry.2.compose scanner outcome := by
  rw [present_eq_compose, selected, keeps.formatUnder_eq member]

/-- Under a built-in output type the presented value is the reported one. -/
theorem KeepsBuiltins.toValue?_present (keeps : scanner.KeepsBuiltins)
    (builtin : OutputFormat.isBuiltin scanner.outputType = true) (outcome : Outcome) :
    (scanner.present outcome).toValue? = outcome.reported := by
  rcases OutputFormat.isBuiltin_iff.mp builtin with ⟨format, member⟩
  rw [keeps.present_eq member rfl]
  exact OutputFormat.toValue?_compose member scanner outcome

theorem Reachable.handsOut_present (reachable : Reachable text scanner)
    (wellFormed : outcome.WellFormed) :
    scanner.HandsOut (scanner.outputTypes.find? scanner.outputType) outcome
      (scanner.present outcome) := by
  have keeps := reachable.keepsBuiltins
  exact
    { value_eq := fun builtin => keeps.toValue?_present builtin outcome
      value_eq_none_iff := by
        intro builtin
        rw [keeps.toValue?_present builtin]
        exact wellFormed.reported_eq_none_iff
      outcome_eq := by
        rintro (selected | selected)
        · rw [keeps.present_eq (.tail _ (.head _)) selected]
          rfl
        · rw [keeps.present_eq (.tail _ (.tail _ (.head _))) selected]
          rfl
      then_eq := by
        intro selected
        rw [keeps.present_eq (.tail _ (.tail _ (.head _))) selected]
        exact ⟨_, rfl, rfl⟩
      rendered := by
        intro registrable
        rcases reachable.findsModes.outputType with ⟨format, found, presents⟩
        rcases reachable.custom_of_not_builtin registrable found with ⟨render, rfl⟩
        exact ⟨render, found, presents outcome⟩ }

/-- A scanner behind a match is reachable if it was before. -/
theorem Reachable.commit (reachable : Reachable text scanner) (outcome : Outcome) :
    Reachable text (scanner.commit outcome).value := by
  rw [Scanner.commit]
  cases outcome.consumed with
  | none => exact reachable
  | some matched => exact reachable.perform 0 (.advanceOver matched)

/-- A check presents the outcome that its options have. -/
theorem value_check (call : Call) (scanner : Scanner) (options : List ScanOption) :
    (scanner.check call options).value =
      (scanner.checkOutcome call options).value.map scanner.present :=
  rfl

/-- A scan presents the outcome that its options have, from behind the match. -/
theorem value_scan_eq_map (call : Call) (scanner : Scanner) (options : List ScanOption) :
    (scanner.scan call options).value =
      (scanner.scanOutcome call options).value.map fun found =>
        (found.2.present found.1, found.2) :=
  rfl

/-- Checks and scans of lists present what the same lists have as outcomes: they fail with
the same errors, leave the same scanners, and hand out that very outcome.  Under an output
type that is not built in, it is rendered by the function that was registered last under
the name in the run, or else by what stood there at its start, which for a new scanner is
nothing.  The built-in formats present the same value of any outcome at all. -/
theorem outputs_present_outcomes {text : String} {start : Scanner}
    (reachable : Reachable text start) (depth : Nat) (commands : List AnyCommand) (call : Call)
    (options : List ScanOption) :
    let scanner := start.performAll (callWithin depth) commands
    let registered? := latestRender? scanner.outputType (start.history depth commands)
    let format? :=
      (registered?.map OutputFormat.custom).or (start.outputTypes.find? scanner.outputType)
    (∀ error, (scanner.check call options).value = .error error ↔
      (scanner.checkOutcome call options).value = .error error) ∧
    (∀ error, (scanner.scan call options).value = .error error ↔
      (scanner.scanOutcome call options).value = .error error) ∧
    (∀ outcome, (scanner.checkOutcome call options).value = .ok outcome →
      ∃ output, (scanner.check call options).value = .ok output ∧
        scanner.HandsOut format? outcome output) ∧
    (∀ outcome changed, (scanner.scanOutcome call options).value = .ok (outcome, changed) →
      ∃ output, (scanner.scan call options).value = .ok (output, changed) ∧
        changed.HandsOut format? outcome output) ∧
    ((Command.check options).run call scanner).value.2 =
      ((Command.checkOutcome options).run call scanner).value.2 ∧
    ((Command.scan options).run call scanner).value.2 =
      ((Command.scanOutcome options).run call scanner).value.2 ∧
    (start = new text ∨ (∃ made, (withOptions text made).value = .ok start) →
      ∀ name, OutputFormat.isBuiltin name = false → start.outputTypes.find? name = none) ∧
    (∀ entry ∈ OutputFormat.builtins, ∀ (parent : Scanner) (outcome : Outcome),
      (entry.2.compose parent outcome).toValue? =
        if outcome.matched then outcome.result else none) := by
  intro scanner registered? format?
  have reached : Reachable text scanner := reachable.performAll depth commands
  have stands (registrable : OutputFormat.isBuiltin scanner.outputType = false) :
      scanner.outputTypes.find? scanner.outputType = format? :=
    find?_outputTypes_performAll registrable depth start commands
  refine ⟨?_, ?_, ?_, ?_, ?_, ?_, ?_, ?_⟩
  · intro error
    rw [value_check]
    exact map_eq_error_iff
  · intro error
    rw [value_scan_eq_map]
    exact map_eq_error_iff
  · intro outcome checked
    have wellFormed : outcome.WellFormed :=
      Search.wellFormed_of_outcome (.firstOf options) checked
    refine ⟨scanner.present outcome, ?_, (reached.handsOut_present wellFormed).of_format stands⟩
    rw [value_check, checked]
    rfl
  · intro outcome changed scanned
    refine ⟨changed.present outcome, ?_, ?_⟩
    · rw [value_scan_eq_map, scanned]
      rfl
    · rw [value_scanOutcome] at scanned
      rcases map_eq_ok_iff.mp scanned with ⟨_, checked, same⟩
      rcases Prod.mk.inj same with ⟨rfl, rfl⟩
      have wellFormed : Outcome.WellFormed _ :=
        Search.wellFormed_of_outcome (.firstOf options) checked
      apply ((reached.commit _).handsOut_present wellFormed).of_format
      rw [(scanner.outputTypes_commit _).1, (scanner.outputTypes_commit _).2]
      exact stands
  · rw [Command.run_of_check? rfl, Command.run_of_check? rfl]
  · rw [Command.run_of_scan? rfl, Command.run_of_scan? rfl]
  · intro made name registrable
    exact find?_outputTypes_of_made registrable made
  · intro entry member parent outcome
    exact OutputFormat.toValue?_compose member parent outcome

/-- An output type that a macro registers anew, one that cannot be replaced, and an enum that
reports null for a type that matches the empty text. -/
theorem outputs_present_outcomes_of_renewed_type :
    let dull : Outcome → Value := fun _ => .null
    let seen : Outcome → Value := fun outcome => .boolean outcome.matched
    let renew : Routine := fun _ =>
      .perform (.addOutputType "seen" seen) fun _ => .finish (.ok none)
    let blank : Routine := fun _ => .finish (.ok (some ""))
    let commands : List AnyCommand :=
      [⟨_, .addOutputType "seen" dull⟩, ⟨_, .addMacro "renew" renew⟩,
        ⟨_, .runMacro "renew" []⟩, ⟨_, .addOutputType "advanced" dull⟩,
        ⟨_, .addType "blank" blank⟩, ⟨_, .moveBy 1⟩]
    let presenting (name : String) : Scanner :=
      (new "añb").performAll (callWithin 2) (commands ++ [⟨_, .setOutputType name⟩])
    let options : List ScanOption := [.enumeration (.type ⟨"blank", []⟩) .null]
    let outcome : Outcome := .substituted .enumeration (.type ⟨"blank", []⟩) "" .null
    ((presenting "seen").check (callWithin 2) options).value = .ok (.custom (.boolean true)) ∧
      ∃ output, ((presenting "advanced").scan (callWithin 2) options).value =
          .ok (output, ((presenting "advanced").commit outcome).value) ∧
        output.toValue? = some .null ∧ output.toOutcome? = some outcome := by
  intro dull seen renew blank commands presenting options outcome
  have start : Reachable "añb" (new "añb") := .new
  constructor
  · rcases outputs_present_outcomes start 2 (commands ++ [⟨_, .setOutputType "seen"⟩])
      (callWithin 2) options with ⟨_, _, ofCheck, _⟩
    rcases ofCheck outcome rfl with ⟨output, checked, hands⟩
    rcases hands.rendered rfl with ⟨render, entry, rendered⟩
    have registered : some (OutputFormat.custom seen) = some (.custom render) := entry
    obtain rfl := OutputFormat.custom.inj (Option.some.inj registered)
    exact checked.trans (congrArg Except.ok rendered)
  · rcases outputs_present_outcomes start 2
      (commands ++ [⟨_, .setOutputType "advanced"⟩]) (callWithin 2) options with
      ⟨_, _, _, ofScan, _⟩
    rcases ofScan outcome ((presenting "advanced").commit outcome).value rfl with
      ⟨output, scanned, hands⟩
    exact ⟨output, scanned, hands.value_eq rfl, hands.outcome_eq (Or.inr rfl)⟩

end Scanner

end TextScanner
