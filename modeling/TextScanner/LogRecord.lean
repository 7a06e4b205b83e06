import TextScanner.ScanOption

/-!
# Log records

Scanners report what they do: changes of state and of registries, and, on a
lower level, the options tried, the macros run and the texts consumed.
-/

namespace TextScanner

/-- Something a scanner did. -/
inductive LogRecord where
  | outputTypeSet (name : String)
  | comparisonModeSet (name : String)
  | undone (pos : Nat)
  | wasReset (full : Bool)
  | pointerSaved (name : String) (pos : Nat)
  | pointerLoaded (name : String) (pos : Nat)
  | typeRegistered (name : String)
  | typeRemoved (name : String)
  | macroRegistered (name : String)
  | macroRemoved (name : String)
  | outputTypeRegistered (name : String)
  /-- A built-in output type was not replaced. -/
  | outputTypeKept (name : String)
  | comparisonModeRegistered (name : String)
  | macroRun (name : String) (pos : Nat)
  | tried (option : ScanOption) (pos : Nat)
  | advanced (pos : Nat) (text : String)

namespace LogRecord

/-- How important a record is. -/
inductive Level where
  | debug
  | trace
  deriving DecidableEq, Repr

def level : LogRecord → Level
  | macroRun _ _ | tried _ _ | advanced _ _ => .trace
  | _ => .debug

/-- The message of a record. -/
def message : LogRecord → String
  | outputTypeSet name => "output type set to " ++ inspectText name
  | comparisonModeSet name => "comparison mode set to " ++ inspectText name
  | undone pos => "undo to " ++ toString pos
  | wasReset full => "reset (full: " ++ inspectBool full ++ ")"
  | pointerSaved name pos => "pointer " ++ inspectText name ++ " saved at " ++ toString pos
  | pointerLoaded name pos => "pointer " ++ inspectText name ++ " loaded at " ++ toString pos
  | typeRegistered name => "type " ++ inspectText name ++ " registered"
  | typeRemoved name => "type " ++ inspectText name ++ " removed"
  | macroRegistered name => "macro " ++ inspectText name ++ " registered"
  | macroRemoved name => "macro " ++ inspectText name ++ " removed"
  | outputTypeRegistered name => "output type " ++ inspectText name ++ " registered"
  | outputTypeKept name => "output type " ++ inspectText name ++ " is built in, not replaced"
  | comparisonModeRegistered name => "comparison mode " ++ inspectText name ++ " registered"
  | macroRun name pos => "running macro " ++ inspectText name ++ " at " ++ toString pos
  | tried option pos => "trying " ++ option.display ++ " at " ++ toString pos
  | advanced pos text => "advanced to " ++ toString pos ++ " over " ++ inspectText text

/-- The level in capitals, then the message. -/
def line (record : LogRecord) : String :=
  (match record.level with
    | .debug => "DEBUG "
    | .trace => "TRACE ") ++ record.message

end LogRecord

end TextScanner
