import TextScanner.Unicode.Casing

/-!
# Classes of characters

A class is kept as it was put together and is asked about single characters.
Closing a class under case adds every character that differs from a member in
case only; as that relation is symmetric, a character belongs to the closure
if it or one of its variants belongs to the class.
-/

namespace TextScanner.Pattern

/-- A class of characters. -/
inductive CharClass where
  | empty
  | range (low high : Char)
  /-- The characters with a property. -/
  | property (holds : Char → Bool)
  | union (left right : CharClass)
  | intersection (left right : CharClass)
  | difference (left right : CharClass)
  | symmetricDifference (left right : CharClass)
  | complement (inner : CharClass)
  /-- The closure under case. -/
  | caseClosure (inner : CharClass)
  /-- The closure under case of ASCII letters only. -/
  | asciiCaseClosure (inner : CharClass)

namespace CharClass

/-- The other case of an ASCII letter. -/
def asciiVariant (char : Char) : Char :=
  if char.isUpper then char.toLower else char.toUpper

/-- Whether a character belongs to a class. -/
def contains : CharClass → Char → Bool
  | empty, _ => false
  | range low high, char => low ≤ char && char ≤ high
  | property holds, char => holds char
  | union left right, char => left.contains char || right.contains char
  | intersection left right, char => left.contains char && right.contains char
  | difference left right, char => left.contains char && !right.contains char
  | symmetricDifference left right, char => left.contains char != right.contains char
  | complement inner, char => !inner.contains char
  | caseClosure inner, char =>
      inner.contains char || (Unicode.caseVariants char).any inner.contains
  | asciiCaseClosure inner, char =>
      inner.contains char || inner.contains (asciiVariant char)

/-- The class of one character. -/
def single (char : Char) : CharClass :=
  range char char

/-- The union of ranges. -/
def ofRanges (ranges : List (Char × Char)) : CharClass :=
  ranges.foldr (fun bounds inner => union (range bounds.1 bounds.2) inner) empty

end CharClass

end TextScanner.Pattern
