import TextScanner.Comparison
import TextScanner.View

/-!
# Commands and scripts

Every public operation of a scanner is a command with an answer of a known
kind.  Types and macros are routines: given their arguments, they are scripts,
which perform one command after another, choose the next by the answers, and
finish with an error or, for a type, with the text it matched.

A script may perform any command, among them those that register further
routines and those that run them, and may look at all that a scanner shows.
-/

namespace TextScanner

/-- The kinds of answers. -/
inductive Kind where
  | done
  | attempt
  | view
  | cursor
  | value
  | text
  | attemptText
  | attemptValue
  | attemptOutcome
  | attemptOutput
  deriving DecidableEq, Repr

/-- The answers of a kind. -/
abbrev Answer : Kind → Type
  | .done => Unit
  | .attempt => Except ScannerError Unit
  | .view => View
  | .cursor => Cursor
  | .value => Option Value
  | .text => Option String
  | .attemptText => Except ScannerError (Option String)
  | .attemptValue => Except ScannerError (Option Value)
  | .attemptOutcome => Except ScannerError Outcome
  | .attemptOutput => Except ScannerError (ScanOutput View)

mutual

/-- The public operations of a scanner. -/
inductive Command : Kind → Type where
  | view : Command .view
  | moveBy (distance : Int) : Command .done
  | moveTo (position : Int) : Command .done
  | advanceOver (text : String) : Command .done
  | undo : Command .done
  | reset (full : Bool) : Command .done
  | savePointer (name : String) : Command .cursor
  | loadPointer (name : String) : Command .attempt
  | addType (name : String) (body : List Value → Script) : Command .done
  | removeType (name : String) : Command .attempt
  | addMacro (name : String) (body : List Value → Script) : Command .done
  | removeMacro (name : String) : Command .attempt
  | runMacro (name : String) (args : List Value) : Command .attempt
  | addOutputType (name : String) (render : Outcome → Value) : Command .done
  | setOutputType (name : String) : Command .attempt
  | addComparisonMode (name : String) (mode : ComparisonMode) : Command .done
  | setComparisonMode (name : String) : Command .attempt
  | putData (key : String) (value : Value) : Command .value
  | dropData (key : String) : Command .value
  | checkOutcome (options : List ScanOption) : Command .attemptOutcome
  | scanOutcome (options : List ScanOption) : Command .attemptOutcome
  | check (options : List ScanOption) : Command .attemptOutput
  | scan (options : List ScanOption) : Command .attemptOutput
  | checkLiteral (text : String) : Command .text
  | scanLiteral (text : String) : Command .text
  | checkPattern (pattern : Pattern) : Command .text
  | scanPattern (pattern : Pattern) : Command .text
  | checkEnum (key : EnumKey) (value : Value) : Command .attemptValue
  | scanEnum (key : EnumKey) (value : Value) : Command .attemptValue
  | checkType (name : String) (args : List Value) : Command .attemptText
  | scanType (name : String) (args : List Value) : Command .attemptText
  /-- Run a script on a copy of the scanner, which is then dropped. -/
  | onDuplicate (body : Script) : Command .attemptText

/-- What a routine does on a scanner. -/
inductive Script : Type where
  | finish (result : Except ScannerError (Option String))
  | perform {kind : Kind} (command : Command kind) (next : Answer kind → Script)

end

instance : Inhabited Script := ⟨.finish (.ok none)⟩

/-- A script for every list of arguments. -/
abbrev Routine := List Value → Script

/-! ## Writing scripts -/

/-- A part of a script: what it does, given how to go on with its result. -/
def Fragment (α : Type) : Type :=
  (α → Script) → Script

namespace Fragment

variable {α : Type}

instance : Monad Fragment where
  pure value := fun next => next value
  bind first next := fun rest => first fun value => next value rest

/-- Perform one command. -/
def perform {kind : Kind} (command : Command kind) : Fragment (Answer kind) :=
  fun next => .perform command next

/-- The script of a fragment whose result says how to finish. -/
def toScript (fragment : Fragment (Except ScannerError (Option String))) : Script :=
  fragment .finish

end Fragment

end TextScanner
