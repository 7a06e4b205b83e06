import TextScanner.Scanner.Matching

/-!
# Performing commands

Commands are performed on scanners, scripts perform their commands in turn, and
routines are run by running their scripts.  Routines can call each other
without end, so calls are counted and a call beyond the limit fails.
-/

namespace TextScanner

/-- Run a macro on the scanner itself. -/
def Scanner.runMacro (call : Call) (scanner : Scanner) (name : String) (args : List Value) :
    Logged (Except ScannerError Unit × Scanner) :=
  match scanner.macros.find? name with
  | none => pure (.error (.unknownMacro name), scanner)
  | some routine =>
      (Logged.note (.macroRun name scanner.cursor.pos) routine >>= fun routine =>
          call routine args scanner).map
        fun (result, changed) => (result.map fun _ => (), changed)

namespace Command

/-- The answer of an attempt that yields a scanner; a failure leaves the
scanner as it was. -/
def settle (scanner : Scanner) (attempt : Attempt Scanner) :
    Logged (Except ScannerError Unit × Scanner) :=
  Logged.map (fun
    | .ok changed => (.ok (), changed)
    | .error error => (.error error, scanner)) attempt

/-- The answer of an attempt that yields a result and a scanner. -/
def settleWith {α : Type} (scanner : Scanner) (attempt : Attempt (α × Scanner)) :
    Logged (Except ScannerError α × Scanner) :=
  Logged.map (fun
    | .ok (result, changed) => (.ok result, changed)
    | .error error => (.error error, scanner)) attempt

/-- The answer of a computation that cannot fail and answers nothing. -/
def done (changed : Logged Scanner) : Logged (Unit × Scanner) :=
  changed.map fun scanner => ((), scanner)

/-- The answer of a computation that leaves the scanner alone. -/
def observe {α : Type} (scanner : Scanner) (result : Logged α) : Logged (α × Scanner) :=
  result.map fun answer => (answer, scanner)

end Command

mutual

/-- Perform a command. -/
def Command.run (call : Call) : {kind : Kind} → Command kind → Scanner →
    Logged (Answer kind × Scanner)
  | _, .view, scanner => pure (scanner.view, scanner)
  | _, .moveBy distance, scanner => pure ((), scanner.moveBy distance)
  | _, .moveTo position, scanner => pure ((), scanner.moveTo position)
  | _, .advanceOver text, scanner => Command.done (scanner.advanceOver text)
  | _, .undo, scanner => Command.done scanner.undo
  | _, .reset full, scanner => Command.done (scanner.reset full)
  | _, .savePointer name, scanner =>
      (scanner.savePointer name).map fun changed => (scanner.cursor, changed)
  | _, .loadPointer name, scanner => Command.settle scanner (scanner.loadPointer name)
  | _, .addType name body, scanner => Command.done (scanner.addType name body)
  | _, .removeType name, scanner => Command.settle scanner (scanner.removeType name)
  | _, .addMacro name body, scanner => Command.done (scanner.addMacro name body)
  | _, .removeMacro name, scanner => Command.settle scanner (scanner.removeMacro name)
  | _, .runMacro name args, scanner => Scanner.runMacro call scanner name args
  | _, .addOutputType name render, scanner => Command.done (scanner.addOutputType name render)
  | _, .setOutputType name, scanner => Command.settle scanner (scanner.setOutputType name)
  | _, .addComparisonMode name mode, scanner =>
      Command.done (scanner.addComparisonMode name mode)
  | _, .setComparisonMode name, scanner =>
      Command.settle scanner (scanner.setComparisonMode name)
  | _, .putData key value, scanner =>
      pure (scanner.data.find? key, { scanner with data := scanner.data.insert key value })
  | _, .dropData key, scanner =>
      pure (scanner.data.find? key, { scanner with data := scanner.data.erase key })
  | _, .checkOutcome options, scanner =>
      Command.observe scanner (scanner.checkOutcome call options)
  | _, .scanOutcome options, scanner =>
      Command.settleWith scanner (scanner.scanOutcome call options)
  | _, .check options, scanner =>
      Command.observe scanner ((scanner.check call options).mapOk (ScanOutput.map Scanner.view))
  | _, .scan options, scanner =>
      Command.settleWith scanner
        ((scanner.scan call options).mapOk fun (output, changed) =>
          (output.map Scanner.view, changed))
  | _, .checkLiteral text, scanner => pure (scanner.checkLiteral text, scanner)
  | _, .scanLiteral text, scanner => scanner.scanLiteral text
  | _, .checkPattern pattern, scanner => pure (scanner.checkPattern pattern, scanner)
  | _, .scanPattern pattern, scanner => scanner.scanPattern pattern
  | _, .checkEnum key value, scanner =>
      Command.observe scanner (scanner.checkEnum call key value)
  | _, .scanEnum key value, scanner =>
      Command.settleWith scanner (scanner.scanEnum call key value)
  | _, .checkType name args, scanner =>
      Command.observe scanner (scanner.checkType call { name, args })
  | _, .scanType name args, scanner =>
      Command.settleWith scanner (scanner.scanType call { name, args })
  | _, .onDuplicate body, scanner =>
      (body.run call scanner).map fun (result, _) => (result, scanner)

/-- Perform the commands of a script. -/
def Script.run (call : Call) : Script → Scanner →
    Logged (Except ScannerError (Option String) × Scanner)
  | .finish result, scanner => pure (result, scanner)
  | .perform command next, scanner =>
      command.run call scanner >>= fun (answer, changed) => (next answer).run call changed

end

/-- Run routines that call each other at most so many times deep. -/
def callWithin : (depth : Nat) → Call
  | 0 => fun _ _ scanner => pure (.error .callsTooDeep, scanner)
  | depth + 1 => fun routine args scanner => (routine args).run (callWithin depth) scanner

/-- How deep routines may call each other. -/
def callLimit : Nat := 4096

/-- Perform a command with the limit on calls. -/
def Scanner.perform {kind : Kind} (scanner : Scanner) (command : Command kind) :
    Logged (Answer kind × Scanner) :=
  command.run (callWithin callLimit) scanner

end TextScanner
