import TextScanner.Json

/-!
# Reading JSON documents

A document is read by the grammar of JSON: blanks may surround every part, and
nothing else may follow the document.  Every reader takes the characters that
remain and returns what it read with the characters after it.
-/

namespace TextScanner.Json

/-- The blanks of JSON. -/
def isBlank (char : Char) : Bool :=
  char == ' ' || char == '\t' || char == '\n' || char == '\r'

/-- Leave out blanks. -/
def skipBlanks (chars : List Char) : List Char :=
  chars.dropWhile isBlank

/-! ## Strings -/

/-- A part of a string: a character that stands for itself or has a short
escape, or a unit of sixteen bits written in hexadecimal. -/
inductive StringPart where
  | char (char : Char)
  | unit (code : Nat)
  deriving DecidableEq, Repr

/-- The unit of four hexadecimal digits. -/
def unitOfHex? (first second third fourth : Char) : Option Nat := do
  let first ← hexDigit? first
  let second ← hexDigit? second
  let third ← hexDigit? third
  let fourth ← hexDigit? fourth
  return ((first * 16 + second) * 16 + third) * 16 + fourth

/-- The character of a short escape. -/
def shortEscape? : Char → Option Char
  | '"' => some '"'
  | '\\' => some '\\'
  | '/' => some '/'
  | 'b' => some '\x08'
  | 'f' => some '\x0c'
  | 'n' => some '\n'
  | 'r' => some '\r'
  | 't' => some '\t'
  | _ => none

/-- Read the parts of a string up to the quote that ends it.  Controls may not
stand in a string. -/
def readParts? : List Char → Option (List StringPart × List Char)
  | '"' :: rest => some ([], rest)
  | '\\' :: 'u' :: first :: second :: third :: fourth :: rest => do
      let code ← unitOfHex? first second third fourth
      let (parts, remaining) ← readParts? rest
      return (.unit code :: parts, remaining)
  | '\\' :: letter :: rest => do
      let char ← shortEscape? letter
      let (parts, remaining) ← readParts? rest
      return (.char char :: parts, remaining)
  | char :: rest =>
      if char.toNat < 0x20 then none
      else do
        let (parts, remaining) ← readParts? rest
        return (.char char :: parts, remaining)
  | [] => none

/-- Whether a unit is the first of a surrogate pair. -/
def isHighSurrogate (code : Nat) : Bool :=
  0xD800 ≤ code && code < 0xDC00

/-- Whether a unit is the second of a surrogate pair. -/
def isLowSurrogate (code : Nat) : Bool :=
  0xDC00 ≤ code && code < 0xE000

/-- The text of a string, if no surrogate stands alone. -/
def textOfParts? : List StringPart → Option (List Char)
  | [] => some []
  | .char char :: rest => (textOfParts? rest).map (char :: ·)
  | [.unit code] =>
      if isHighSurrogate code || isLowSurrogate code then none else some [Char.ofNat code]
  | .unit code :: next :: rest =>
      if isHighSurrogate code then
        match next with
        | .unit low =>
            if isLowSurrogate low then
              (textOfParts? rest).map
                (Char.ofNat (0x10000 + (code - 0xD800) * 0x400 + (low - 0xDC00)) :: ·)
            else none
        | .char _ => none
      else if isLowSurrogate code then none
      else (textOfParts? (next :: rest)).map (Char.ofNat code :: ·)

/-- Read a string after its opening quote. -/
def readString? (chars : List Char) : Option (Option String × List Char) :=
  (readParts? chars).map fun (parts, rest) => ((textOfParts? parts).map String.ofList, rest)

/-- Whether a text is the literal of a string: after its opening quote it is read as
that string, whatever follows. -/
def IsLiteral (literal : List Char) (text : String) : Prop :=
  ∃ body, literal = '"' :: body ∧
    ∀ rest, readString? (body ++ rest) = some (some text, rest)

/-! ## Numbers -/

/-- Digits and what follows them. -/
def takeDigits (chars : List Char) : List Char × List Char :=
  (chars.takeWhile Char.isDigit, chars.dropWhile Char.isDigit)

/-- Read digits, at least one. -/
def readDigits? (chars : List Char) : Option (List Char × List Char) :=
  match takeDigits chars with
  | ([], _) => none
  | (digits, rest) => some (digits, rest)

/-- Read the whole part of a number, which has no zero before other digits. -/
def readWhole? (chars : List Char) : Option (List Char × List Char) :=
  match readDigits? chars with
  | some ('0' :: _ :: _, _) => none
  | read => read

/-- Read what follows the point of a number, if there is one. -/
def readFraction? : List Char → Option (Option (List Char) × List Char)
  | '.' :: rest => (readDigits? rest).map fun (digits, rest) => (some digits, rest)
  | rest => some (none, rest)

/-- Read the exponent of a number, if there is one. -/
def readExponent? : List Char → Option (Option (Bool × List Char) × List Char)
  | char :: rest =>
      if char = 'e' ∨ char = 'E' then
        let (negative, rest) :=
          match rest with
          | '+' :: rest => (false, rest)
          | '-' :: rest => (true, rest)
          | rest => (false, rest)
        (readDigits? rest).map fun (digits, rest) => (some (negative, digits), rest)
      else some (none, char :: rest)
  | [] => some (none, [])

/-- Read a number. -/
def readNumeral? (chars : List Char) : Option (Numeral × List Char) := do
  let (negative, rest) :=
    match chars with
    | '-' :: rest => (true, rest)
    | rest => (false, rest)
  let (whole, rest) ← readWhole? rest
  let (fraction, rest) ← readFraction? rest
  let (exponent, rest) ← readExponent? rest
  return ({ negative, whole, fraction, exponent }, rest)

/-! ## Documents -/

mutual

/-- Read a document that may be followed by anything.  `fuel` bounds the
nesting and the number of items; twice the number of characters is enough. -/
def readValue? : (fuel : Nat) → List Char → Option (Json × List Char)
  | 0, _ => none
  | fuel + 1, chars =>
      match skipBlanks chars with
      | 'n' :: 'u' :: 'l' :: 'l' :: rest => some (.null, rest)
      | 't' :: 'r' :: 'u' :: 'e' :: rest => some (.boolean true, rest)
      | 'f' :: 'a' :: 'l' :: 's' :: 'e' :: rest => some (.boolean false, rest)
      | '"' :: rest => (readString? rest).map fun (text, rest) => (.string text, rest)
      | '[' :: rest =>
          match skipBlanks rest with
          | ']' :: rest => some (.array [], rest)
          | rest => (readItems? fuel rest).map fun (items, rest) => (.array items, rest)
      | '\x7b' :: rest =>
          match skipBlanks rest with
          | '\x7d' :: rest => some (.object [], rest)
          | rest => (readMembers? fuel rest).map fun (members, rest) => (.object members, rest)
      | rest => (readNumeral? rest).map fun (numeral, rest) => (.number numeral, rest)

/-- Read the items of an array and the bracket that ends it. -/
def readItems? : (fuel : Nat) → List Char → Option (List Json × List Char)
  | 0, _ => none
  | fuel + 1, chars =>
      match readValue? fuel chars with
      | none => none
      | some (item, rest) =>
          match skipBlanks rest with
          | ',' :: rest =>
              (readItems? fuel rest).map fun (items, rest) => (item :: items, rest)
          | ']' :: rest => some ([item], rest)
          | _ => none

/-- Read the members of an object and the brace that ends it. -/
def readMembers? : (fuel : Nat) → List Char → Option (List (Option String × Json) × List Char)
  | 0, _ => none
  | fuel + 1, chars =>
      match skipBlanks chars with
      | '"' :: rest =>
          match readString? rest with
          | none => none
          | some (name, rest) =>
              match skipBlanks rest with
              | ':' :: rest =>
                  match readValue? fuel rest with
                  | none => none
                  | some (item, rest) =>
                      match skipBlanks rest with
                      | ',' :: rest =>
                          (readMembers? fuel rest).map fun (members, rest) =>
                            ((name, item) :: members, rest)
                      | '\x7d' :: rest => some ([(name, item)], rest)
                      | _ => none
              | _ => none
      | _ => none

end

/-- Read a text that holds one document. -/
def readChars? (chars : List Char) : Option Json :=
  match readValue? (2 * chars.length + 2) chars with
  | some (document, rest) => if (skipBlanks rest).isEmpty then some document else none
  | none => none

/-- Read a text that holds one document. -/
def read? (text : String) : Option Json :=
  readChars? text.toList

end TextScanner.Json
