import TextScanner.Proofs.Frame

/-!
# Calls that leave no trace

Checks, scans that do not match and calls that answer with an error leave the
whole scanner alone.  A routine that ran before the error ran on a copy; only a
registered macro that fails has worked on the scanner itself.

So nobody notices if such calls are left out of a run: every other call meets the
same scanner and gets the same answer (`Scanner.exchanges_of_kept`).
-/

namespace TextScanner

/-- Whether a call is a check, a scan that does not match, or answers with an
error without having run a macro. -/
def Command.leavesNoTrace (call : Call) (scanner : Scanner) {kind : Kind}
    (command : Command kind) : Bool :=
  command.check?.isSome || command.matched? call scanner == some false ||
    ((Answer.error? (command.run call scanner).value.1).isSome && !command.runsMacro scanner)

theorem Command.run_of_leavesNoTrace {call : Call} {scanner : Scanner} {kind : Kind}
    {command : Command kind} (traceless : command.leavesNoTrace call scanner = true) :
    (command.run call scanner).value.2 = scanner := by
  simp only [leavesNoTrace, Bool.or_eq_true, beq_iff_eq, Bool.and_eq_true, Bool.not_eq_true',
    Option.isSome_iff_exists] at traceless
  rcases traceless with (⟨search, checks⟩ | missed) | ⟨⟨error, failed⟩, noMacro⟩
  · exact run_of_check? checks call scanner
  · rcases matched?_eq_some_iff.mp missed with ⟨search, _, scans, _, _⟩
    exact run_of_not_matched scans (by simp [missed])
  · exact run_of_error failed noMacro

/-- A command in a run, with the scanner that it met and the answer that it got. -/
structure Exchange where
  met : Scanner
  command : AnyCommand
  answer : Answer command.1

/-- Whether a command may have changed the scanner that it met. -/
def Exchange.leavesTrace (call : Call) (exchange : Exchange) : Bool :=
  !exchange.command.2.leavesNoTrace call exchange.met

namespace Scanner

/-- What happens when commands are performed one after another. -/
def exchanges (call : Call) (scanner : Scanner) : List AnyCommand → List Exchange
  | [] => []
  | command :: rest =>
      { met := scanner, command, answer := (command.2.run call scanner).value.1 } ::
        exchanges call (command.2.run call scanner).value.2 rest

/-- What happens in a run, apart from the calls that leave no trace. -/
def kept (call : Call) (scanner : Scanner) (commands : List AnyCommand) : List Exchange :=
  (scanner.exchanges call commands).filter (Exchange.leavesTrace call)

variable {call : Call} {scanner : Scanner} {command : AnyCommand}

theorem kept_cons_of_leavesNoTrace (traceless : command.2.leavesNoTrace call scanner = true)
    (rest : List AnyCommand) : scanner.kept call (command :: rest) = scanner.kept call rest := by
  rw [kept, exchanges, Command.run_of_leavesNoTrace traceless, List.filter_cons_of_neg]
  · rfl
  · simp [Exchange.leavesTrace, traceless]

theorem kept_cons_of_leavesTrace (traced : command.2.leavesNoTrace call scanner = false)
    (rest : List AnyCommand) :
    scanner.kept call (command :: rest) =
      { met := scanner, command, answer := (command.2.run call scanner).value.1 } ::
        (command.2.run call scanner).value.2.kept call rest := by
  rw [kept, exchanges, List.filter_cons_of_pos]
  · rfl
  · simp [Exchange.leavesTrace, traced]

/-- Performing only the commands that leave a trace leads to the same scanner. -/
theorem performAll_kept (call : Call) (scanner : Scanner) (commands : List AnyCommand) :
    scanner.performAll call ((scanner.kept call commands).map Exchange.command) =
      scanner.performAll call commands := by
  induction commands generalizing scanner with
  | nil => rfl
  | cons command rest ih =>
      cases traceless : command.2.leavesNoTrace call scanner with
      | true =>
          rw [kept_cons_of_leavesNoTrace traceless, ih, performAll,
            Command.run_of_leavesNoTrace traceless]
      | false =>
          rw [kept_cons_of_leavesTrace traceless, List.map_cons, performAll, performAll]
          exact ih _

/-- Each of the remaining commands meets the scanner and gets the answer that it
met and got in the full run. -/
theorem exchanges_of_kept (call : Call) (scanner : Scanner) (commands : List AnyCommand) :
    scanner.exchanges call ((scanner.kept call commands).map Exchange.command) =
      scanner.kept call commands := by
  induction commands generalizing scanner with
  | nil => rfl
  | cons command rest ih =>
      cases traceless : command.2.leavesNoTrace call scanner with
      | true =>
          rw [kept_cons_of_leavesNoTrace traceless]
          exact ih scanner
      | false =>
          rw [kept_cons_of_leavesTrace traceless, List.map_cons, exchanges]
          exact congrArg _ (ih _)

/-- Checks, scans that do not match and calls that fail, other than macros, leave
every scanner as it was.  Without them a run leads to the same scanner, and every
remaining call meets the same scanner and gets the same answer. -/
theorem failed_calls_leave_no_trace (call : Call) (scanner : Scanner) :
    (∀ {kind : Kind} (command : Command kind) {search : Search},
      command.check? = some search → (command.run call scanner).value.2 = scanner) ∧
    (∀ {kind : Kind} (command : Command kind), command.matched? call scanner = some false →
      (command.run call scanner).value.2 = scanner) ∧
    (∀ {kind : Kind} (command : Command kind) {error : ScannerError},
      Answer.error? (command.run call scanner).value.1 = some error →
      command.runsMacro scanner = false → (command.run call scanner).value.2 = scanner) ∧
    ∀ commands : List AnyCommand,
      let kept := scanner.kept call commands
      scanner.performAll call (kept.map Exchange.command) = scanner.performAll call commands ∧
      scanner.exchanges call (kept.map Exchange.command) = kept := by
  refine ⟨?_, ?_, ?_, ?_⟩
  · intro kind command search checks
    exact Command.run_of_check? checks call scanner
  · intro kind command missed
    exact Command.run_of_leavesNoTrace (by simp [Command.leavesNoTrace, missed])
  · intro kind command error failed noMacro
    exact Command.run_of_error failed noMacro
  · intro commands kept
    exact ⟨scanner.performAll_kept call commands, scanner.exchanges_of_kept call commands⟩

/-- A type that moves its copy before it fails, and other calls without a trace. -/
theorem failed_calls_leave_no_trace_of_failing_type :
    let failing : Routine := fun _ =>
      .perform (.moveBy 2) fun _ =>
      .perform (.savePointer "here") fun _ =>
      .perform (.loadPointer "there") fun answer => .finish (answer.map fun _ => none)
    let scanner := (new "añb").performAll (callWithin 2) [⟨_, .addType "failing" failing⟩]
    let commands : List AnyCommand :=
      [⟨_, .loadPointer "there"⟩, ⟨_, .scanLiteral "x"⟩, ⟨_, .moveBy 1⟩,
        ⟨_, .scanOutcome [.literal "x", .type ⟨"failing", []⟩]⟩, ⟨_, .checkLiteral "ñ"⟩,
        ⟨_, .runMacro "missing" []⟩, ⟨_, .scanLiteral "ñ"⟩, ⟨_, .removeType "missing"⟩]
    (scanner.kept (callWithin 2) commands).map (fun exchange => exchange.met.cursor.pos) =
        [0, 1] ∧
      scanner.performAll (callWithin 2)
          ((scanner.kept (callWithin 2) commands).map Exchange.command) =
        scanner.performAll (callWithin 2) commands ∧
      ((Command.scanType "failing" []).run (callWithin 2) scanner).value.2 = scanner := by
  intro failing scanner commands
  rcases failed_calls_leave_no_trace (callWithin 2) scanner with ⟨_, _, ofError, ofRun⟩
  refine ⟨?_, (ofRun commands).1, ?_⟩
  · decide +kernel
  · exact ofError (.scanType "failing" []) rfl rfl

end Scanner

end TextScanner
