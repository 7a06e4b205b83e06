import TextScanner.Proofs.Search
import Mathlib.Logic.Relation

/-!
# What operations do to a scanner

A command other than a macro leaves the scanner alone or changes it in one of
the ways listed by `Scanner.Change`; a macro leaves it as its routine does
(`Command.run_cases`).  Routines perform commands, so whatever is done to a
scanner is a finite sequence of such changes, however deep routines call each
other (`callWithin_changes`).

A scanner is reachable for a text if finitely many commands lead to it from a
scanner made for the text.  What every change preserves holds of all reachable
scanners (`Scanner.Reachable.invariant`).
-/

namespace TextScanner

namespace Scanner

/-- A change of a scanner by one operation that succeeds. -/
inductive Change (scanner : Scanner) : Scanner → Prop
  | moveBy (distance : Int) : Change scanner (scanner.moveBy distance)
  | moveTo (position : Int) : Change scanner (scanner.moveTo position)
  | advanceOver (matched : String) : Change scanner (scanner.advanceOver matched).value
  | undo : Change scanner scanner.undo.value
  | reset (full : Bool) : Change scanner (scanner.reset full).value
  | savePointer (name : String) : Change scanner (scanner.savePointer name).value
  | loadPointer {name : String} {saved : Cursor}
      (known : scanner.pointers.find? name = some saved) :
      Change scanner (scanner.moveCursor fun _ => saved)
  | addType (name : String) (body : Routine) :
      Change scanner { scanner with types := scanner.types.insert name body }
  | removeType (name : String) :
      Change scanner { scanner with types := scanner.types.erase name }
  | addMacro (name : String) (body : Routine) :
      Change scanner { scanner with macros := scanner.macros.insert name body }
  | removeMacro (name : String) :
      Change scanner { scanner with macros := scanner.macros.erase name }
  | addOutputType {name : String} (render : Outcome → Value)
      (free : OutputFormat.isBuiltin name = false) :
      Change scanner
        { scanner with outputTypes := scanner.outputTypes.insert name (.custom render) }
  | setOutputType {name : String} (known : scanner.outputTypes.contains name = true) :
      Change scanner { scanner with outputType := name }
  | addComparisonMode (name : String) (mode : ComparisonMode) :
      Change scanner { scanner with comparisonModes := scanner.comparisonModes.insert name mode }
  | setComparisonMode {name : String} (known : scanner.comparisonModes.contains name = true) :
      Change scanner { scanner with comparisonMode := name }
  | putData (key : String) (value : Value) :
      Change scanner { scanner with data := scanner.data.insert key value }
  | dropData (key : String) :
      Change scanner { scanner with data := scanner.data.erase key }

/-- At most one change. -/
abbrev AtMostOneChange : Scanner → Scanner → Prop :=
  Relation.ReflGen Change

/-- Any number of changes, one after another. -/
abbrev Changes : Scanner → Scanner → Prop :=
  Relation.ReflTransGen Change

/-- No operation changes the text. -/
theorem Change.text_eq {scanner changed : Scanner} (change : Change scanner changed) :
    changed.text = scanner.text := by
  cases change with
  | reset full => cases full <;> rfl
  | _ => rfl

theorem Changes.invariant {motive : Scanner → Prop}
    (preserved : ∀ {scanner changed}, Change scanner changed → motive scanner → motive changed)
    {scanner changed : Scanner} (changes : Changes scanner changed) (start : motive scanner) :
    motive changed := by
  induction changes with
  | refl => exact start
  | tail _ change before => exact preserved change before

/-- Nor does any number of operations. -/
theorem Changes.text_eq {scanner changed : Scanner} (changes : Changes scanner changed) :
    changed.text = scanner.text :=
  changes.invariant (motive := fun changed => changed.text = scanner.text)
    (fun change same => change.text_eq.trans same) rfl

/-! ## Operations that may fail -/

theorem change_of_loadPointer {scanner changed : Scanner} {name : String}
    (loaded : (scanner.loadPointer name).value = .ok changed) : Change scanner changed := by
  unfold loadPointer at loaded
  cases found : scanner.pointers.find? name with
  | none => simp [found] at loaded
  | some saved =>
      rw [found] at loaded
      obtain rfl := Except.ok.inj loaded
      exact .loadPointer found

theorem change_of_removeType {scanner changed : Scanner} {name : String}
    (removed : (scanner.removeType name).value = .ok changed) : Change scanner changed := by
  unfold removeType at removed
  split at removed
  · obtain rfl := Except.ok.inj removed
    exact .removeType name
  · simp at removed

theorem change_of_removeMacro {scanner changed : Scanner} {name : String}
    (removed : (scanner.removeMacro name).value = .ok changed) : Change scanner changed := by
  unfold removeMacro at removed
  split at removed
  · obtain rfl := Except.ok.inj removed
    exact .removeMacro name
  · simp at removed

theorem change_of_setOutputType {scanner changed : Scanner} {name : String}
    (selected : (scanner.setOutputType name).value = .ok changed) : Change scanner changed := by
  unfold setOutputType at selected
  split at selected
  · rename_i known
    obtain rfl := Except.ok.inj selected
    exact .setOutputType known
  · simp at selected

theorem change_of_setComparisonMode {scanner changed : Scanner} {name : String}
    (selected : (scanner.setComparisonMode name).value = .ok changed) :
    Change scanner changed := by
  unfold setComparisonMode at selected
  split at selected
  · rename_i known
    obtain rfl := Except.ok.inj selected
    exact .setComparisonMode known
  · simp at selected

theorem addOutputType_atMostOneChange (scanner : Scanner) (name : String)
    (render : Outcome → Value) :
    AtMostOneChange scanner (scanner.addOutputType name render).value := by
  unfold addOutputType
  split
  · exact .refl
  · rename_i free
    exact .single (.addOutputType render (by simpa using free))

theorem past_atMostOneChange (scanner : Scanner) (result : Except ScannerError Outcome) :
    AtMostOneChange scanner (scanner.past result) := by
  cases result with
  | error error => exact .refl
  | ok outcome =>
      rw [past_ok, commit]
      cases outcome.consumed with
      | none => exact .refl
      | some text => exact .single (.advanceOver text)

end Scanner

namespace Command

open Scanner (Change Changes AtMostOneChange)

theorem settle_atMostOneChange {scanner : Scanner} {attempt : Attempt Scanner}
    (changes : ∀ {changed}, attempt.value = .ok changed → Change scanner changed) :
    AtMostOneChange scanner (settle scanner attempt).value.2 := by
  rw [value_settle]
  cases result : attempt.value with
  | error error => exact .refl
  | ok changed => exact .single (changes result)

/-- What one command does to a scanner, given how routines are run. -/
theorem run_cases (call : Call) {kind : Kind} (command : Command kind) (scanner : Scanner) :
    AtMostOneChange scanner (command.run call scanner).value.2 ∨
      ∃ name routine args, scanner.macros.find? name = some routine ∧
        (command.run call scanner).value.2 = (call routine args scanner).value.2 := by
  cases command
  case runMacro name args =>
      simp only [run, Scanner.runMacro]
      cases found : scanner.macros.find? name with
      | none => exact Or.inl .refl
      | some routine => exact Or.inr ⟨name, routine, args, found, rfl⟩
  all_goals left
  case view => exact .refl
  case moveBy distance => exact .single (.moveBy distance)
  case moveTo position => exact .single (.moveTo position)
  case advanceOver text => exact .single (.advanceOver text)
  case undo => exact .single .undo
  case reset full => exact .single (.reset full)
  case savePointer name => exact .single (.savePointer name)
  case loadPointer name => exact settle_atMostOneChange Scanner.change_of_loadPointer
  case addType name body => exact .single (.addType name body)
  case removeType name => exact settle_atMostOneChange Scanner.change_of_removeType
  case addMacro name body => exact .single (.addMacro name body)
  case removeMacro name => exact settle_atMostOneChange Scanner.change_of_removeMacro
  case addOutputType name render => exact scanner.addOutputType_atMostOneChange name render
  case setOutputType name => exact settle_atMostOneChange Scanner.change_of_setOutputType
  case addComparisonMode name mode => exact .single (.addComparisonMode name mode)
  case setComparisonMode name =>
      exact settle_atMostOneChange Scanner.change_of_setComparisonMode
  case putData key value => exact .single (.putData key value)
  case dropData key => exact .single (.dropData key)
  case onDuplicate body => exact .refl
  case scanOutcome | scan | scanLiteral | scanPattern | scanEnum | scanType =>
      rw [run_of_scan? rfl]
      exact scanner.past_atMostOneChange _
  case checkOutcome | check | checkLiteral | checkPattern | checkEnum | checkType =>
      rw [run_of_check? rfl]

end Command

/-! ## Runs -/

/-- A command with any kind of answer. -/
abbrev AnyCommand := Σ kind, Command kind

namespace Scanner

/-- Perform commands one after another, whatever they answer. -/
def performAll (call : Call) (scanner : Scanner) : List AnyCommand → Scanner
  | [] => scanner
  | command :: rest => performAll call (command.2.run call scanner).value.2 rest

theorem performAll_append (call : Call) (scanner : Scanner) (before after : List AnyCommand) :
    scanner.performAll call (before ++ after) =
      (scanner.performAll call before).performAll call after := by
  induction before generalizing scanner with
  | nil => rfl
  | cons command rest ih => exact ih _

/-- A way to run routines that only changes scanners as operations do. -/
def CallChanges (call : Call) : Prop :=
  ∀ routine args scanner, Changes scanner (call routine args scanner).value.2

theorem run_changes {call : Call} (calls : CallChanges call) {kind : Kind}
    (command : Command kind) (scanner : Scanner) :
    Changes scanner (command.run call scanner).value.2 := by
  rcases command.run_cases call scanner with change | ⟨_, routine, args, _, result⟩
  · exact change.to_reflTransGen
  · rw [result]
    exact calls routine args scanner

end Scanner

theorem Script.run_changes {call : Call} (calls : Scanner.CallChanges call) :
    ∀ (script : Script) (scanner : Scanner),
      Scanner.Changes scanner (script.run call scanner).value.2
  | .finish _, _ => by
      rw [Script.run]
      exact .refl
  | .perform command next, scanner => by
      rw [Script.run]
      exact (Scanner.run_changes calls command scanner).trans
        (Script.run_changes calls (next _) _)

/-- Routines only change scanners as operations do, however deep they call each
other. -/
theorem callWithin_changes (depth : Nat) : Scanner.CallChanges (callWithin depth) := by
  induction depth with
  | zero =>
      intro routine args scanner
      exact .refl
  | succ depth ih =>
      intro routine args scanner
      exact Script.run_changes ih (routine args) scanner

namespace Scanner

/-- Runs do not change the text. -/
theorem text_performAll (depth : Nat) (scanner : Scanner) (commands : List AnyCommand) :
    (scanner.performAll (callWithin depth) commands).text = scanner.text := by
  induction commands generalizing scanner with
  | nil => rfl
  | cons command rest ih =>
      rw [performAll, ih]
      exact (run_changes (callWithin_changes depth) command.2 scanner).text_eq

/-- A scanner to which finitely many commands lead from one made for a text.
Routines may call each other to any depth, and what a routine finds, on the
scanner itself or on a copy of it, is reachable too. -/
inductive Reachable (text : String) : Scanner → Prop
  | new : Reachable text (new text)
  | withOptions {options : ScannerOptions} {scanner : Scanner}
      (made : (withOptions text options).value = .ok scanner) : Reachable text scanner
  | perform {scanner : Scanner} (reachable : Reachable text scanner) (depth : Nat)
      {kind : Kind} (command : Command kind) :
      Reachable text (command.run (callWithin depth) scanner).value.2

theorem Reachable.performAll {text : String} {scanner : Scanner}
    (reachable : Reachable text scanner) (depth : Nat) (commands : List AnyCommand) :
    Reachable text (scanner.performAll (callWithin depth) commands) := by
  induction commands generalizing scanner with
  | nil => exact reachable
  | cons command rest ih => exact ih (reachable.perform depth command.2)

theorem withOptions_changes {text : String} {options : ScannerOptions} {scanner : Scanner}
    (made : (withOptions text options).value = .ok scanner) :
    Changes (Scanner.new text) scanner := by
  rcases Attempt.value_andThen_eq_ok_iff.mp made with ⟨presenting, first, second⟩
  exact .tail (.single (change_of_setOutputType first)) (change_of_setComparisonMode second)

theorem Reachable.changes {text : String} {scanner : Scanner}
    (reachable : Reachable text scanner) : Changes (Scanner.new text) scanner := by
  induction reachable with
  | new => exact .refl
  | withOptions made => exact withOptions_changes made
  | perform _ depth command before =>
      exact before.trans (run_changes (callWithin_changes depth) command _)

/-- What holds at the start and is preserved by every change holds of all
reachable scanners. -/
theorem Reachable.invariant {motive : Scanner → Prop} {text : String} {scanner : Scanner}
    (reachable : Reachable text scanner) (start : motive (Scanner.new text))
    (preserved : ∀ {scanner changed}, Change scanner changed → motive scanner → motive changed) :
    motive scanner :=
  Changes.invariant preserved reachable.changes start

/-- The scanners that turn up while a script runs, where calls go at most so many
times deep: those between its commands, and those that turn up while a command runs
another script.  A registered routine begins on the scanner itself if it is a macro
and on a copy if it is a type, and so does a script that is run on a copy. -/
inductive Meets : (depth : Nat) → Script → Scanner → Scanner → Prop
  | start (depth : Nat) (script : Script) (scanner : Scanner) :
      Meets depth script scanner scanner
  | later {depth : Nat} {kind : Kind} {command : Command kind} {next : Answer kind → Script}
      {scanner place : Scanner}
      (met : Meets depth (next (command.run (callWithin depth) scanner).value.1)
        (command.run (callWithin depth) scanner).value.2 place) :
      Meets depth (.perform command next) scanner place
  | routine {depth : Nat} {kind : Kind} {command : Command kind} {next : Answer kind → Script}
      {scanner place : Scanner} {name : String} {body : Routine}
      (registered : scanner.types.find? name = some body ∨
        scanner.macros.find? name = some body) (args : List Value)
      (met : Meets depth (body args) scanner place) :
      Meets (depth + 1) (.perform command next) scanner place
  | duplicate {depth : Nat} {body : Script} {next : Answer .attemptText → Script}
      {scanner place : Scanner} (met : Meets depth body scanner place) :
      Meets depth (.perform (.onDuplicate body) next) scanner place

theorem Reachable.meets {text : String} {scanner place : Scanner} {depth : Nat}
    {script : Script} (reachable : Reachable text scanner)
    (met : Meets depth script scanner place) : Reachable text place := by
  induction met with
  | start => exact reachable
  | later _ ih => exact ih (reachable.perform _ _)
  | routine _ _ _ ih => exact ih reachable
  | duplicate _ ih => exact ih reachable

/-- A reachable scanner has the text it was made for. -/
theorem Reachable.text_eq {text : String} {scanner : Scanner}
    (reachable : Reachable text scanner) : scanner.text = text :=
  reachable.invariant (motive := fun scanner => scanner.text = text) rfl
    fun change same => change.text_eq.trans same

end Scanner

end TextScanner
