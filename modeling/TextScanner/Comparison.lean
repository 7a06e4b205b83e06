import TextScanner.Pattern

/-!
# Comparison modes

How literals and patterns are tested against the text behind the cursor.  A
comparator gets a candidate and that text and returns what it consumed, or
nothing.  Callers keep empty candidates from comparators.

The literal comparator that ignores case looks for the shortest beginning of
the text whose small form is that of the candidate.
-/

namespace TextScanner

/-- A way to test literals and a way to test patterns. -/
structure ComparisonMode where
  literal : (candidate text : String) → Option String
  pattern : (candidate : Pattern) → (text : String) → Option String

/-- A text in small letters, character by character. -/
def lowerChars (chars : List Char) : List Char :=
  chars.flatMap Unicode.lower

/-- What follows a given beginning in a text that has it. -/
def restAfter? : (beginning : List Char) → List Char → Option (List Char)
  | [], chars => some chars
  | _ :: _, [] => none
  | expected :: beginning, char :: rest =>
      if expected = char then restAfter? beginning rest else none

theorem restAfter?_eq_some_iff {beginning chars rest : List Char} :
    restAfter? beginning chars = some rest ↔ chars = beginning ++ rest := by
  induction beginning generalizing chars with
  | nil => simp [restAfter?]
  | cons expected beginning ih =>
      cases chars with
      | nil => simp [restAfter?]
      | cons char chars =>
          by_cases same : expected = char
          · subst same
            simp [restAfter?, ih]
          · simp [restAfter?, same, Ne.symm same]

/-- The shortest beginning of a text whose small form is `wanted`. -/
def lowerPrefix? : (wanted : List Char) → List Char → Option (List Char)
  | [], _ => some []
  | _ :: _, [] => none
  | wanted, char :: rest =>
      match restAfter? (Unicode.lower char) wanted with
      | none => none
      | some remaining => (lowerPrefix? remaining rest).map (char :: ·)

namespace ComparisonMode

/-- A text that is not empty. -/
def nonEmpty (found : Option String) : Option String :=
  found.filter fun text => text ≠ ""

/-- Case matters. -/
def normal : ComparisonMode where
  literal := fun candidate text =>
    if candidate.toList.isPrefixOf text.toList then some candidate else none
  pattern := fun candidate text => nonEmpty (candidate.findPrefix? text)

/-- Case is ignored; what is consumed keeps the spelling of the text. -/
def insensitive : ComparisonMode where
  literal := fun candidate text =>
    (lowerPrefix? (lowerChars candidate.toList) text.toList).map String.ofList
  pattern := fun candidate text => nonEmpty (candidate.findPrefixFolded? text)

/-- The name of the mode in which case matters. -/
def normalName : String := "normal"

/-- The name of the mode that ignores case. -/
def insensitiveName : String := "insensitive"

/-- The modes every scanner starts with. -/
def builtins : List (String × ComparisonMode) :=
  [(normalName, normal), (insensitiveName, insensitive)]

end ComparisonMode

end TextScanner
