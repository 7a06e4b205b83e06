import TextScanner.Json

/-!
# Writing JSON documents

Documents are written without blanks.  How the strings of a document are written
is left to whoever writes it: names come as the literals that denote them.
-/

namespace TextScanner.Json

/-- The digits of a whole number. -/
def writeNat (number : Nat) : List Char :=
  Nat.toDigits 10 number

/-- The document of a whole number. -/
def ofNat (number : Nat) : Json :=
  .number ⟨false, writeNat number, none, none⟩

/-- Parts with commas between them. -/
def separate : List (List Char) → List Char
  | [] => []
  | [part] => part
  | part :: next :: rest => part ++ ',' :: separate (next :: rest)

/-- An array of written items. -/
def writeArray (items : List (List Char)) : List Char :=
  '[' :: (separate items ++ [']'])

/-- A member of an object, its name written as a literal. -/
def writeMember (literal content : List Char) : List Char :=
  literal ++ ':' :: content

/-- An object of written members. -/
def writeObject (members : List (List Char)) : List Char :=
  '\x7b' :: (separate members ++ ['\x7d'])

end TextScanner.Json
