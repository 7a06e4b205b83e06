import TextScanner.Pattern.Error
import TextScanner.Pattern.Expression
import TextScanner.Text.Digits
import TextScanner.Unicode.Property

/-!
# Lexemes of patterns

The smallest parts of a pattern's source: blanks and comments, counts, escapes,
switches and names of groups.  Each reader takes the characters that remain and
returns what it read with the characters after it.

In verbose patterns blanks and comments may stand between any two characters of
a lexeme, so most readers are told whether the pattern is verbose.
-/

namespace TextScanner.Pattern

open Unicode (isBlank isAlphabetic isAlphanumeric)

/-- What was read, and the characters that remain. -/
abbrev Taken (α : Type) := α × List Char

/-! ## Blanks and comments -/

/-- Leave out blanks and comments, which run from a number sign to the end of
the line. -/
def skipNoise : (inComment : Bool) → List Char → List Char
  | _, [] => []
  | true, char :: rest => skipNoise (char ≠ '\n') rest
  | false, char :: rest =>
      if isBlank char then skipNoise false rest
      else if char = '#' then skipNoise true rest
      else char :: rest

/-- Leave out blanks and comments of a verbose pattern. -/
def skip (verbose : Bool) (chars : List Char) : List Char :=
  if verbose then skipNoise false chars else chars

/-- Pass one character and the blanks and comments behind it. -/
def advance (verbose : Bool) (chars : List Char) : List Char :=
  skip verbose (chars.drop 1)

/-- The characters up to the first that is not accepted, blanks and comments
between them left out, and what remains. -/
def collect (verbose : Bool) (accepts : Char → Bool) : Nat → List Char → List Char × List Char
  | fuel + 1, char :: rest =>
      if accepts char then
        let (more, remaining) := collect verbose accepts fuel (skip verbose rest)
        (char :: more, remaining)
      else ([], char :: rest)
  | _, chars => ([], chars)

/-- `collect` over all characters. -/
def collectAll (verbose : Bool) (accepts : Char → Bool) (chars : List Char) :
    List Char × List Char :=
  collect verbose accepts chars.length chars

/-! ## Counts -/

/-- Read a count, which is below `2 ^ 32`; blanks may surround it in any
pattern. -/
def readDecimal (verbose : Bool) (chars : List Char) : Except PatternError (Taken Nat) :=
  let (digits, rest) := collectAll verbose Char.isDigit (chars.dropWhile isBlank)
  let (_, rest) := collectAll verbose isBlank rest
  let value := digitsValue digits
  if digits.isEmpty then .error .invalidCount
  else if Nat.pow 2 32 ≤ value then .error .invalidCount
  else .ok (value, rest)

/-- Read counts in braces: the least and, if there is one, the greatest.  The
characters start with the opening brace. -/
def readCounts (verbose : Bool) (chars : List Char) :
    Except PatternError (Taken (Nat × Option Nat)) := do
  let (least, rest) ← readDecimal verbose (advance verbose chars)
  let (most, rest) ←
    match rest with
    | ',' :: _ =>
        match advance verbose rest with
        | '}' :: after => pure (none, '}' :: after)
        | after => do
            let (most, after) ← readDecimal verbose after
            pure (some most, after)
    | _ => pure (some least, rest)
  match rest with
  | '}' :: _ =>
      if most.any (· < least) then .error .reversedBounds
      else .ok ((least, most), advance verbose rest)
  | _ => .error .unclosedCount

/-! ## Escapes -/

/-- The character whose code point is written in hexadecimal digits. -/
def charOfHex (digits : List Char) : Except PatternError Char :=
  match digits.mapM hexDigit? with
  | none => .error .invalidCode
  | some values =>
      let code := values.foldl (fun code value => 16 * code + value) 0
      if values.isEmpty then .error .invalidCode
      else if valid : code.isValidChar then .ok (Char.ofNatAux code valid)
      else .error .invalidCode

/-- Read a fixed number of hexadecimal digits. -/
def readFixedHex (verbose : Bool) : Nat → List Char → Except PatternError (Taken (List Char))
  | 0, chars => .ok ([], chars)
  | count + 1, char :: rest => do
      let (more, remaining) ← readFixedHex verbose count (skip verbose rest)
      .ok (char :: more, remaining)
  | _ + 1, [] => .error .unfinishedEscape

/-- Read a code point after the letter that announces it: that many digits, or
any number of digits in braces. -/
def readCode (verbose : Bool) (digits : Nat) (chars : List Char) :
    Except PatternError (Taken Letter) := do
  match advance verbose chars with
  | '{' :: rest =>
      let (code, remaining) := collectAll verbose (· ≠ '}') (skip verbose rest)
      if remaining.isEmpty then .error .unfinishedEscape
      else .ok ({ char := ← charOfHex code }, advance verbose remaining)
  | rest =>
      let (code, remaining) ← readFixedHex verbose digits rest
      .ok ({ char := ← charOfHex code, byte := digits == 2 }, remaining)

/-- Split a text at the first place where a separator stands. -/
def splitAtFirst? (separator : List Char) : List Char → Option (List Char × List Char)
  | [] => none
  | char :: rest =>
      if separator.isPrefixOf (char :: rest) then
        some ([], (char :: rest).drop separator.length)
      else (splitAtFirst? separator rest).map fun (before, after) => (char :: before, after)

/-- The property class of a name as written in braces: a property, or a
property and its value. -/
def propertyOfName (negated : Bool) (name : List Char) : Expr :=
  match splitAtFirst? ['!', '='] name with
  | some (property, value) =>
      .property (String.ofList property) (some (String.ofList value)) (!negated)
  | none =>
      match (splitAtFirst? [':'] name).or (splitAtFirst? ['='] name) with
      | some (property, value) =>
          .property (String.ofList property) (some (String.ofList value)) negated
      | none => .property (String.ofList name) none negated

/-- Read a property class; the characters start with the letter p. -/
def readProperty (verbose negated : Bool) (chars : List Char) : Except PatternError (Taken Expr) :=
  match advance verbose chars with
  | [] => .error .unfinishedEscape
  | '{' :: rest =>
      let (name, remaining) := collectAll verbose (· ≠ '}') (skip verbose rest)
      if remaining.isEmpty then .error .unfinishedEscape
      else .ok (propertyOfName negated name, remaining.drop 1)
  | '\\' :: _ => .error .unknownClass
  | char :: rest => .ok (.property char.toString none negated, skip verbose rest)

/-- Read the kind of a word boundary in braces, if there is one; otherwise the
brace belongs to a count.  The characters start with the brace. -/
def readBoundaryKind? (verbose : Bool) (chars : List Char) :
    Except PatternError (Option (Assertion × List Char)) :=
  let accepts (char : Char) : Bool := char.isAlpha || char == '-'
  match advance verbose chars with
  | [] => .error .unknownBoundary
  | char :: rest =>
      if accepts char then
        let (name, remaining) := collectAll verbose accepts (char :: rest)
        match remaining with
        | '}' :: after =>
            match String.ofList name with
            | "start" => .ok (some (.wordStart, after))
            | "end" => .ok (some (.wordEnd, after))
            | "start-half" => .ok (some (.wordStartHalf, after))
            | "end-half" => .ok (some (.wordEndHalf, after))
            | _ => .error .unknownBoundary
        | _ => .error .unknownBoundary
      else .ok none

/-- Characters that need a backslash somewhere in a pattern. -/
def isMeta (char : Char) : Bool :=
  "\\.+*?()|[]\x7b\x7d^$#&-~".toList.contains char

/-- Characters that mean themselves after a backslash: all of ASCII but
letters, digits and the angle brackets. -/
def isEscapable (char : Char) : Bool :=
  isMeta char || (char.toNat < 0x80 && !char.isAlphanum && char != '<' && char != '>')

/-- Read an escape; the characters start with the one after the backslash. -/
def readEscape (verbose : Bool) (chars : List Char) : Except PatternError (Taken Expr) := do
  match chars with
  | [] => .error .unfinishedEscape
  | char :: rest =>
      if char.isDigit then .error .backreference
      else if isEscapable char then .ok (.letter { char }, rest)
      else
        let letter (meant : Char) : Except PatternError (Taken Expr) :=
          .ok (.letter { char := meant }, rest)
        let assertion (kind : Assertion) : Except PatternError (Taken Expr) :=
          .ok (.assertion kind, rest)
        let code (digits : Nat) : Except PatternError (Taken Expr) := do
          let (read, remaining) ← readCode verbose digits chars
          .ok (.letter read, remaining)
        match char with
        | 'x' => code 2
        | 'u' => code 4
        | 'U' => code 8
        | 'p' => readProperty verbose false chars
        | 'P' => readProperty verbose true chars
        | 'd' => .ok (.short .digit false, rest)
        | 's' => .ok (.short .blank false, rest)
        | 'w' => .ok (.short .word false, rest)
        | 'D' => .ok (.short .digit true, rest)
        | 'S' => .ok (.short .blank true, rest)
        | 'W' => .ok (.short .word true, rest)
        | 'a' => letter '\x07'
        | 'f' => letter '\x0c'
        | 't' => letter '\t'
        | 'n' => letter '\n'
        | 'r' => letter '\r'
        | 'v' => letter '\x0b'
        | 'A' => assertion .textStart
        | 'z' => assertion .textEnd
        | 'B' => assertion .notWordBoundary
        | '<' => assertion .wordStart
        | '>' => assertion .wordEnd
        | 'b' =>
            match rest with
            | '{' :: _ => do
                match ← readBoundaryKind? verbose rest with
                | some (kind, remaining) => .ok (.assertion kind, remaining)
                | none => assertion .wordBoundary
            | _ => assertion .wordBoundary
        | _ => .error .unknownEscape

/-! ## Switches and names of groups -/

/-- The flag of a letter. -/
def Flag.ofLetter? : Char → Option Flag
  | 'i' => some .ignoreCase
  | 'm' => some .multiLine
  | 's' => some .pointMatchesAll
  | 'U' => some .swapGreed
  | 'u' => some .unicode
  | 'R' => some .carriageReturn
  | 'x' => some .verbose
  | _ => none

/-- Read switches up to the colon or parenthesis that ends them, which stays.
`on` says that no minus came so far, `dangling` that a minus came just before. -/
def readSwitches : (on dangling : Bool) → Switches → List Char →
    Except PatternError (Taken Switches)
  | _, _, _, [] => .error .unfinishedFlags
  | on, dangling, known, char :: rest =>
      if char = ':' ∨ char = ')' then
        if dangling then .error .unfinishedFlags else .ok (known, char :: rest)
      else if char = '-' then
        if on then readSwitches false true known rest else .error .repeatedFlag
      else
        match Flag.ofLetter? char with
        | none => .error .unknownFlag
        | some flag =>
            if (known.find? flag).isSome then .error .repeatedFlag
            else readSwitches on false (known ++ [(flag, on)]) rest

/-- Whether a character may stand in the name of a group. -/
def isNameChar (first : Bool) (char : Char) : Bool :=
  char == '_' || isAlphabetic char ||
    (!first && (char == '.' || char == '[' || char == ']' || isAlphanumeric char))

/-- Read the name of a group and the angle bracket that closes it. -/
def readGroupName (chars : List Char) : Except PatternError (Taken String) :=
  let name := chars.takeWhile (· ≠ '>')
  match name, chars.dropWhile (· ≠ '>') with
  | first :: others, _ :: rest =>
      if isNameChar true first && others.all (isNameChar false) then
        .ok (String.ofList name, rest)
      else .error .invalidGroupName
  | _, _ => .error .invalidGroupName

end TextScanner.Pattern
