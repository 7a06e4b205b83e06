import TextScanner.Proofs.Frame
import TextScanner.Proofs.Trying

/-!
# What a run does to the scanner itself

A macro performs its commands on the scanner itself, so they belong to the run
that calls it.  A type performs its commands on a copy, and all that the scanner
sees of them is the text that it is advanced over.

Unfolding a run replaces each macro by what its routine performs, down to macros
that macros run, and each scan by the advance over what it consumed.  What is left
are direct commands, which do the same to every scanner however routines are run
(`Command.run_of_direct`), and they lead where the run leads
(`Scanner.unfolded_leads`).  So whatever is said about the operations that a run
performs on the scanner itself is said about these commands.
-/

namespace TextScanner

namespace Command

variable {kind : Kind} {command : Command kind} {call : Call} {scanner : Scanner}

/-- Whether a command is neither a macro nor a scan. -/
def direct : {kind : Kind} → Command kind → Bool
  | _, .runMacro _ _ => false
  | _, command => command.scan?.isNone

/-- What a direct command does to a scanner does not depend on how routines are
run. -/
theorem run_of_direct (direct : command.direct = true) (call other : Call)
    (scanner : Scanner) :
    (command.run call scanner).value.2 = (command.run other scanner).value.2 := by
  cases command
  case runMacro => simp [Command.direct] at direct
  case scanOutcome | scan | scanLiteral | scanPattern | scanEnum | scanType =>
      simp [Command.direct, scan?] at direct
  all_goals rfl

/-- A scan leads where the advance over what it consumed leads. -/
theorem run_of_scan_eq_advanceOver {search : Search} (scans : command.scan? = some search)
    (call : Call) (scanner : Scanner) :
    (command.run call scanner).value.2 =
      ((command.consumed call scanner).map fun text =>
        (scanner.advanceOver text).value).getD scanner := by
  rw [run_of_scan? scans]
  cases searched : search.outcome call scanner with
  | error error => simp [consumed, scans, searched, Scanner.past]
  | ok outcome =>
      simp only [consumed, scans, Option.map_some, searched, Scanner.past_ok, Scanner.commit]
      cases outcome.consumed <;> rfl

end Command

/-- The direct commands that running a routine comes down to. -/
abbrev Unfolding := Routine → List Value → Scanner → List AnyCommand

/-- The direct commands that a command comes down to, given those of routines. -/
def Command.unfolded (call : Call) (ofMacro : Unfolding) (scanner : Scanner) :
    {kind : Kind} → Command kind → List AnyCommand
  | _, .runMacro name args =>
      match scanner.macros.find? name with
      | some routine => ofMacro routine args scanner
      | none => []
  | kind, command =>
      if command.scan?.isSome then
        (command.consumed call scanner).toList.map fun text => ⟨.done, .advanceOver text⟩
      else [⟨kind, command⟩]

/-- The direct commands that a script comes down to. -/
def Script.unfolded (call : Call) (ofMacro : Unfolding) : Script → Scanner → List AnyCommand
  | .finish _, _ => []
  | .perform command next, scanner =>
      command.unfolded call ofMacro scanner ++
        (next (command.run call scanner).value.1).unfolded call ofMacro
          (command.run call scanner).value.2

/-- The direct commands that a routine comes down to where calls go at most so
many times deep. -/
def unfoldingWithin : (depth : Nat) → Unfolding
  | 0 => fun _ _ _ => []
  | depth + 1 => fun routine args scanner =>
      (routine args).unfolded (callWithin depth) (unfoldingWithin depth) scanner

/-- The direct commands that a run comes down to. -/
def Scanner.unfolded (depth : Nat) (scanner : Scanner) : List AnyCommand → List AnyCommand
  | [] => []
  | command :: rest =>
      command.2.unfolded (callWithin depth) (unfoldingWithin depth) scanner ++
        unfolded depth (command.2.run (callWithin depth) scanner).value.2 rest

/-! ## Direct commands lead where the run leads -/

/-- Direct commands that lead from one scanner to another, however routines are
run. -/
structure Scanner.LeadsDirectly (scanner : Scanner) (commands : List AnyCommand)
    (changed : Scanner) : Prop where
  direct : ∀ command ∈ commands, command.2.direct = true
  performAll_eq : ∀ call, scanner.performAll call commands = changed

namespace Scanner.LeadsDirectly

theorem nil (scanner : Scanner) : scanner.LeadsDirectly [] scanner :=
  ⟨by simp, fun _ => rfl⟩

theorem append {first second third : Scanner} {before after : List AnyCommand}
    (leads : first.LeadsDirectly before second) (further : second.LeadsDirectly after third) :
    first.LeadsDirectly (before ++ after) third := by
  refine ⟨List.forall_mem_append.mpr ⟨leads.direct, further.direct⟩, ?_⟩
  intro call
  rw [performAll_append, leads.performAll_eq, further.performAll_eq]

theorem single {kind : Kind} {command : Command kind} (direct : command.direct = true)
    (call : Call) (scanner : Scanner) :
    scanner.LeadsDirectly [⟨kind, command⟩] (command.run call scanner).value.2 :=
  ⟨by simpa using direct, fun other => Command.run_of_direct direct other call scanner⟩

theorem advance (call : Call) (scanner : Scanner) (consumed : Option String) :
    scanner.LeadsDirectly (consumed.toList.map fun text => ⟨.done, .advanceOver text⟩)
      ((consumed.map fun text => (scanner.advanceOver text).value).getD scanner) := by
  cases consumed with
  | none => exact .nil scanner
  | some text => exact .single rfl call scanner

end Scanner.LeadsDirectly

/-- An unfolding leads where running routines leads. -/
def Unfolding.Follows (ofMacro : Unfolding) (call : Call) : Prop :=
  ∀ (routine : Routine) (args : List Value) (scanner : Scanner),
    scanner.LeadsDirectly (ofMacro routine args scanner) (call routine args scanner).value.2

theorem Command.unfolded_leads {call : Call} {ofMacro : Unfolding}
    (follows : ofMacro.Follows call) {kind : Kind} (command : Command kind)
    (scanner : Scanner) :
    scanner.LeadsDirectly (command.unfolded call ofMacro scanner)
      (command.run call scanner).value.2 := by
  cases command
  case runMacro name args =>
      simp only [unfolded, run, Scanner.runMacro]
      cases scanner.macros.find? name with
      | none => exact .nil scanner
      | some routine => exact follows routine args scanner
  case scanOutcome | scan | scanLiteral | scanPattern | scanEnum | scanType =>
      rw [run_of_scan_eq_advanceOver rfl]
      exact .advance call scanner _
  all_goals exact .single rfl call scanner

theorem Script.unfolded_leads {call : Call} {ofMacro : Unfolding}
    (follows : ofMacro.Follows call) :
    ∀ (script : Script) (scanner : Scanner),
      scanner.LeadsDirectly (script.unfolded call ofMacro scanner)
        (script.run call scanner).value.2
  | .finish _, scanner => by
      rw [Script.unfolded, Script.run]
      exact .nil scanner
  | .perform command next, scanner => by
      rw [Script.unfolded, Script.value_run_perform]
      exact (Command.unfolded_leads follows command scanner).append
        (Script.unfolded_leads follows (next _) _)

theorem unfoldingWithin_follows (depth : Nat) :
    (unfoldingWithin depth).Follows (callWithin depth) := by
  induction depth with
  | zero =>
      intro routine args scanner
      exact .nil scanner
  | succ depth ih =>
      intro routine args scanner
      exact Script.unfolded_leads ih (routine args) scanner

/-- The direct commands of a run lead where the run leads. -/
theorem Scanner.unfolded_leads (depth : Nat) (scanner : Scanner) (commands : List AnyCommand) :
    scanner.LeadsDirectly (scanner.unfolded depth commands)
      (scanner.performAll (callWithin depth) commands) := by
  induction commands generalizing scanner with
  | nil => exact .nil scanner
  | cons command rest ih =>
      exact (Command.unfolded_leads (unfoldingWithin_follows depth) command.2 scanner).append
        (ih _)

end TextScanner
