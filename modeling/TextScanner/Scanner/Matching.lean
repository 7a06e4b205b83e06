import TextScanner.Scanner

/-!
# Matching

Options are tried from left to right and the first match wins.  Literals and
patterns go through the active comparison mode.  A type runs its routine on a
copy of the scanner and matches the text that the routine returns.  An enum
matches what its key matches and reports its own value.

Checks leave the scanner alone.  Scans advance it over the consumed text of a
match and leave it alone otherwise.

How a routine is run is a parameter of this module: the operations of a scanner
are among the commands of routines, so both are tied together afterwards, in
`TextScanner.Scanner.Command`.
-/

namespace TextScanner

/-- A way to run a routine: the script for its arguments on a scanner.  Its
result comes with the scanner as the routine left it. -/
abbrev Call :=
  Routine → List Value → Scanner → Logged (Except ScannerError (Option String) × Scanner)

namespace Scanner

/-! ## Trying one option -/

/-- The active comparison mode. -/
def activeMode (scanner : Scanner) : ComparisonMode :=
  (scanner.comparisonModes.find? scanner.comparisonMode).getD .normal

/-- Try a literal; an empty one does not match. -/
def resolveLiteral (scanner : Scanner) (candidate : String) : Outcome :=
  if candidate = "" then .failure
  else
    match scanner.activeMode.literal candidate scanner.unscannedText with
    | some text => .success .literal (.literal candidate) text
    | none => .failure

/-- Try a pattern; an empty one does not match, and matches of nothing do not
count. -/
def resolvePattern (scanner : Scanner) (candidate : Pattern) : Outcome :=
  if candidate.isEmpty then .failure
  else
    match scanner.activeMode.pattern candidate scanner.unscannedText with
    | some text => if text = "" then .failure else .success .pattern (.pattern candidate) text
    | none => .failure

/-- Try a type: run its routine on a copy. -/
def resolveType (call : Call) (scanner : Scanner) (reference : TypeRef) : Attempt Outcome :=
  match scanner.types.find? reference.name with
  | none => .fail (.unknownType reference.name)
  | some routine =>
      (call routine reference.args scanner).map fun (result, _) =>
        result.map fun
          | some text => .success (.type reference.name) (.type reference) text
          | none => .failure

/-- Try the key of an enum. -/
def resolveKey (call : Call) (scanner : Scanner) : EnumKey → Attempt Outcome
  | .literal candidate => .ok (scanner.resolveLiteral candidate)
  | .pattern candidate => .ok (scanner.resolvePattern candidate)
  | .type reference => scanner.resolveType call reference

/-- Try an enum: what its key consumed, with its own value. -/
def resolveEnum (call : Call) (scanner : Scanner) (key : EnumKey) (value : Value) :
    Attempt Outcome :=
  (scanner.resolveKey call key).mapOk fun inner =>
    match inner.consumed with
    | some text => .substituted .enumeration key.toOption text value
    | none => .failure

/-- Try an option. -/
def resolve (call : Call) (scanner : Scanner) (option : ScanOption) : Attempt Outcome :=
  (Attempt.note (.tried option scanner.cursor.pos) option).andThen fun
    | .literal candidate => .ok (scanner.resolveLiteral candidate)
    | .pattern candidate => .ok (scanner.resolvePattern candidate)
    | .type reference => scanner.resolveType call reference
    | .enumeration key value => scanner.resolveEnum call key value

/-! ## Trying several options -/

/-- The outcome of the first option that matches or fails with an error. -/
def checkOutcome (call : Call) (scanner : Scanner) : List ScanOption → Attempt Outcome
  | [] => .ok .failure
  | option :: rest =>
      (scanner.resolve call option).andThen fun outcome =>
        if outcome.matched then .ok outcome else scanner.checkOutcome call rest

/-- Advance over what a match consumed. -/
def commit (scanner : Scanner) (outcome : Outcome) : Logged Scanner :=
  match outcome.consumed with
  | some text => scanner.advanceOver text
  | none => pure scanner

/-- An outcome together with the scanner advanced over it. -/
def committing (scanner : Scanner) (outcome : Attempt Outcome) : Attempt (Outcome × Scanner) :=
  outcome.andThen fun outcome =>
    (scanner.commit outcome).map fun scanner => .ok (outcome, scanner)

/-- `checkOutcome`, advancing over a match. -/
def scanOutcome (call : Call) (scanner : Scanner) (options : List ScanOption) :
    Attempt (Outcome × Scanner) :=
  scanner.committing (scanner.checkOutcome call options)

/-- An outcome as the active output type presents it. -/
def present (scanner : Scanner) (outcome : Outcome) : ScanOutput Scanner :=
  ((scanner.outputTypes.find? scanner.outputType).getD .normal).compose scanner outcome

/-- Try options and present the outcome. -/
def check (call : Call) (scanner : Scanner) (options : List ScanOption) :
    Attempt (ScanOutput Scanner) :=
  (scanner.checkOutcome call options).mapOk scanner.present

/-- Try options, advance over a match, and present the outcome. -/
def scan (call : Call) (scanner : Scanner) (options : List ScanOption) :
    Attempt (ScanOutput Scanner × Scanner) :=
  (scanner.scanOutcome call options).mapOk fun (outcome, scanner) =>
    (scanner.present outcome, scanner)

/-! ## Operations for one kind of option -/

/-- The text a literal would match. -/
def checkLiteral (scanner : Scanner) (candidate : String) : Option String :=
  (scanner.resolveLiteral candidate).text

/-- Match a literal and advance over it. -/
def scanLiteral (scanner : Scanner) (candidate : String) : Logged (Option String × Scanner) := do
  let outcome := scanner.resolveLiteral candidate
  return (outcome.text, ← scanner.commit outcome)

/-- The text a pattern would match. -/
def checkPattern (scanner : Scanner) (candidate : Pattern) : Option String :=
  (scanner.resolvePattern candidate).text

/-- Match a pattern and advance over its text. -/
def scanPattern (scanner : Scanner) (candidate : Pattern) :
    Logged (Option String × Scanner) := do
  let outcome := scanner.resolvePattern candidate
  return (outcome.text, ← scanner.commit outcome)

/-- The value of an enum if its key would match. -/
def checkEnum (call : Call) (scanner : Scanner) (key : EnumKey) (value : Value) :
    Attempt (Option Value) :=
  (scanner.resolveEnum call key value).mapOk Outcome.result

/-- Match the key of an enum, advance over its text, and report the value. -/
def scanEnum (call : Call) (scanner : Scanner) (key : EnumKey) (value : Value) :
    Attempt (Option Value × Scanner) :=
  (scanner.committing (scanner.resolveEnum call key value)).mapOk fun (outcome, scanner) =>
    (outcome.result, scanner)

/-- The text a type would match. -/
def checkType (call : Call) (scanner : Scanner) (reference : TypeRef) :
    Attempt (Option String) :=
  (scanner.resolveType call reference).mapOk Outcome.text

/-- Match a type and advance over its text. -/
def scanType (call : Call) (scanner : Scanner) (reference : TypeRef) :
    Attempt (Option String × Scanner) :=
  (scanner.committing (scanner.resolveType call reference)).mapOk fun (outcome, scanner) =>
    (outcome.text, scanner)

end Scanner

end TextScanner
