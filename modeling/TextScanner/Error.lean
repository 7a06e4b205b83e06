/-!
# Errors of scanners

A failed match is an outcome and no error.  Errors are references to names
under which nothing is registered, options that cannot be built, and routines
that call each other without end.
-/

namespace TextScanner

/-- Why an operation of a scanner failed. -/
inductive ScannerError where
  | unknownPointer (name : String)
  | unknownType (name : String)
  | unknownMacro (name : String)
  | unknownOutputType (name : String)
  | unknownComparisonMode (name : String)
  /-- An enum option was given as the key of another. -/
  | nestedEnum
  /-- Types and macros called each other beyond the limit. -/
  | callsTooDeep
  deriving DecidableEq, Repr

/-- The message of an error.  Names are inserted as they are. -/
def ScannerError.message : ScannerError → String
  | unknownPointer name => "not found: pointer \"" ++ name ++ "\" does not exist"
  | unknownType name => "not found: type \"" ++ name ++ "\" does not exist"
  | unknownMacro name => "not found: macro \"" ++ name ++ "\" does not exist"
  | unknownOutputType name =>
      "configuration error: output type \"" ++ name ++ "\" does not exist"
  | unknownComparisonMode name =>
      "configuration error: comparison mode \"" ++ name ++ "\" does not exist"
  | nestedEnum =>
      "configuration error: an enum option cannot be the key of another enum option"
  | callsTooDeep => "calls of types and macros are nested too deep"

end TextScanner
