import TextScanner.Proofs.Search
import TextScanner.Proofs.Selection

/-!
# Routines that do not depend on the output type

The active output type decides how checks and scans present what they found, not
what they find.  A type, though, is tried on a copy of the scanner, which has the
active output type of the scanner.  So its routine is presented outcomes in that
way too, and may go on differently under another one.

A script is indifferent to two output types if it goes on in the same way whichever
of them presents what it asks for (`Script.Indifferent`).  Among built-in output
types this is so if the script asks for values only
(`Script.indifferent_of_value`).
-/

namespace TextScanner

variable {first second : String}

/-! ## Answers that differ in presentation -/

/-- Answers that differ at most in what the active output type makes of them, the
first of two output types here and the second there: views name it, and outputs
present an outcome by a format that can stand under its name. -/
inductive Answer.Alike (first second : String) :
    {kind : Kind} → Answer kind → Answer kind → Prop
  | refl {kind : Kind} (answer : Answer kind) : Alike first second answer answer
  | view {view : View} (under : view.outputType = first) :
      @Alike first second .view view { view with outputType := second }
  | output {parent : View} {outcome : Outcome} {format other : OutputFormat}
      (under : parent.outputType = first) (wellFormed : outcome.WellFormed)
      (formatUnder : format.MayStandUnder first) (otherUnder : other.MayStandUnder second) :
      @Alike first second .attemptOutput (.ok (format.compose parent outcome))
        (.ok (other.compose { parent with outputType := second } outcome))

theorem Answer.Alike.of_eq {kind : Kind} {answer other : Answer kind} (same : answer = other) :
    Answer.Alike first second answer other := by
  rw [same]
  exact .refl other

theorem OutputFormat.MayStandUnder.toValue?_compose {format : OutputFormat} {name : String}
    (under : format.MayStandUnder name) (builtin : OutputFormat.isBuiltin name = true)
    (parent : View) (outcome : Outcome) :
    (format.compose parent outcome).toValue? = outcome.reported := by
  rcases under with free | member
  · simp [builtin] at free
  · exact OutputFormat.toValue?_compose member parent outcome

/-- The built-in output types present the same values. -/
theorem Answer.Alike.toValue?_eq {answer other : Answer .attemptOutput}
    (alike : Answer.Alike first second answer other)
    (builtinFirst : OutputFormat.isBuiltin first = true)
    (builtinSecond : OutputFormat.isBuiltin second = true) :
    answer.map ScanOutput.toValue? = other.map ScanOutput.toValue? := by
  cases alike with
  | refl answer => rfl
  | output under wellFormed formatUnder otherUnder =>
      simp only [Except.map]
      rw [formatUnder.toValue?_compose builtinFirst, otherUnder.toValue?_compose builtinSecond]

/-! ## Indifferent routines -/

/-- The scripts in a command: what a type or a macro that it registers does, or what
it does on a copy. -/
def Command.Carries : {kind : Kind} → Command kind → Script → Prop
  | _, .addType _ body, script => ∃ args, body args = script
  | _, .addMacro _ body, script => ∃ args, body args = script
  | _, .onDuplicate body, script => body = script
  | _, _, _ => False

/-- A script that goes on in the same way after answers that differ at most in
presentation, and so do the scripts in its commands. -/
inductive Script.Indifferent (first second : String) : Script → Prop
  | finish (result : Except ScannerError (Option String)) :
      Indifferent first second (.finish result)
  | perform {kind : Kind} {command : Command kind} {next : Answer kind → Script}
      (carried : ∀ script, command.Carries script → Indifferent first second script)
      (same : ∀ answer other, Answer.Alike first second answer other →
        next answer = next other)
      (later : ∀ answer, Indifferent first second (next answer)) :
      Indifferent first second (.perform command next)

/-- A routine whose scripts are indifferent. -/
def IndifferentRoutine (first second : String) (routine : Routine) : Prop :=
  ∀ args, (routine args).Indifferent first second

/-- A script that asks for the value of a check or a scan, whatever it does then,
does not tell built-in output types apart. -/
theorem Script.indifferent_of_value (builtinFirst : OutputFormat.isBuiltin first = true)
    (builtinSecond : OutputFormat.isBuiltin second = true) (command : Command .attemptOutput)
    {next : Except ScannerError (Option Value) → Script}
    (later : ∀ result, (next result).Indifferent first second) :
    Script.Indifferent first second
      (.perform command fun answer => next (answer.map ScanOutput.toValue?)) := by
  apply Indifferent.perform
  · intro script carries
    cases command <;> exact False.elim carries
  · intro answer other alike
    exact congrArg next (alike.toValue?_eq builtinFirst builtinSecond)
  · intro answer
    exact later _

/-- A type that matches a text if the value that a scan presents is a text. -/
def textOf (options : List ScanOption) : Routine := fun _ =>
  .perform (.scan options) fun answer =>
    .finish ((answer.map ScanOutput.toValue?).map fun value => value.bind Value.asString?)

/-- Taking the value for what matched is indifferent to built-in output types. -/
theorem indifferentRoutine_textOf (builtinFirst : OutputFormat.isBuiltin first = true)
    (builtinSecond : OutputFormat.isBuiltin second = true) (options : List ScanOption) :
    IndifferentRoutine first second (textOf options) := by
  intro args
  exact Script.indifferent_of_value builtinFirst builtinSecond (.scan options)
    fun result => .finish _

end TextScanner
