/-!
# Faults of patterns

What can be wrong with the source of a pattern.  The faults are told apart so
that each rule of the grammar has its own; all are reported by one message.
-/

namespace TextScanner

/-- Why a source is no pattern. -/
inductive PatternError where
  /-- A backslash at the end. -/
  | unfinishedEscape
  /-- A letter or digit that has no meaning after a backslash. -/
  | unknownEscape
  /-- A reference to what a group matched. -/
  | backreference
  /-- A code point that is written badly or that is no character. -/
  | invalidCode
  /-- A condition on what follows or precedes. -/
  | lookAround
  /-- A class without end. -/
  | unclosedClass
  /-- An assertion inside a class, or a bound of a range that is no character. -/
  | invalidClassItem
  /-- A range or a count whose lower end exceeds its upper end. -/
  | reversedBounds
  /-- A class name that is not known. -/
  | unknownClass
  /-- A group without end. -/
  | unclosedGroup
  /-- The end of a group that has no beginning. -/
  | unopenedGroup
  /-- A group name that is empty, badly formed or without end. -/
  | invalidGroupName
  /-- A second group of one name. -/
  | repeatedGroupName
  /-- A flag that is not known. -/
  | unknownFlag
  /-- A flag or a minus that is given twice. -/
  | repeatedFlag
  /-- Flags without end, or a minus without flags. -/
  | unfinishedFlags
  /-- A repetition of nothing. -/
  | nothingToRepeat
  /-- A count without end. -/
  | unclosedCount
  /-- A count without digits, or with too many. -/
  | invalidCount
  /-- A word boundary of an unknown kind. -/
  | unknownBoundary
  /-- Nesting beyond the limit. -/
  | nestedTooDeep
  /-- A class of bytes that are not characters. -/
  | notText
  /-- A character beyond ASCII where only bytes are possible. -/
  | notByte
  deriving DecidableEq, Repr

/-- The message of a fault. -/
def PatternError.message (_ : PatternError) : String :=
  "error parsing pattern 0"

end TextScanner
