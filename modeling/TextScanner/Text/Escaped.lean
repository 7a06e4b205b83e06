import TextScanner.Text.Digits

/-!
# Escaped text

Values, options and dumps show a text between double quotes.  Quotes and
backslashes are escaped, and so is every character that could end or disturb a
line of output: the controls, and the line and paragraph separators.  The
escapes are those of JSON string literals, so an escaped text between quotes
is such a literal.
-/

namespace TextScanner

/-- The controls: the two blocks of control characters, and delete. -/
def isControl (char : Char) : Bool :=
  char.toNat < 0x20 || (0x7F ≤ char.toNat && char.toNat < 0xA0)

/-- Characters that are not shown as they are although they are neither quotes
nor backslashes: controls, and the line and paragraph separators. -/
def breaksLine (char : Char) : Bool :=
  isControl char || char == '\u2028' || char == '\u2029'

/-- A character of an escaped text. -/
def escapeChar (char : Char) : List Char :=
  if char = '"' then ['\\', '"']
  else if char = '\\' then ['\\', '\\']
  else if char = '\n' then ['\\', 'n']
  else if char = '\r' then ['\\', 'r']
  else if char = '\t' then ['\\', 't']
  else if breaksLine char then '\\' :: 'u' :: fourHexDigits 'A' char.toNat
  else [char]

/-- Escape every character of a text. -/
def escape (chars : List Char) : List Char :=
  chars.flatMap escapeChar

@[simp]
theorem escape_nil : escape [] = [] :=
  rfl

@[simp]
theorem escape_cons (char : Char) (rest : List Char) :
    escape (char :: rest) = escapeChar char ++ escape rest :=
  rfl

theorem escape_append (left right : List Char) :
    escape (left ++ right) = escape left ++ escape right := by
  simp [escape]

/-- The escaped text between double quotes. -/
def quote (text : String) : List Char :=
  '"' :: (escape text.toList ++ ['"'])

end TextScanner
