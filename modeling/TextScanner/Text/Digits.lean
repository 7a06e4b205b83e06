/-!
# Digits

Numbers and codes are written in decimal or hexadecimal digits.  Hexadecimal
digits beyond nine are letters of either case; what is written keeps to one of
them, and what is read may have both.
-/

namespace TextScanner

/-- The value of a decimal digit. -/
def digitValue (digit : Char) : Nat :=
  digit.toNat - '0'.toNat

/-- The number that decimal digits denote. -/
def digitsValue (digits : List Char) : Nat :=
  digits.foldl (fun value digit => 10 * value + digitValue digit) 0

/-- The hexadecimal digit of a number below sixteen.  The letters start with
`ten`. -/
def hexDigit (ten : Char) (digit : Nat) : Char :=
  if digit < 10 then Char.ofNat ('0'.toNat + digit) else Char.ofNat (ten.toNat + (digit - 10))

/-- The last four hexadecimal digits of a code. -/
def fourHexDigits (ten : Char) (code : Nat) : List Char :=
  [hexDigit ten (code / 4096 % 16), hexDigit ten (code / 256 % 16),
    hexDigit ten (code / 16 % 16), hexDigit ten (code % 16)]

/-- The value of a hexadecimal digit of either case. -/
def hexDigit? (char : Char) : Option Nat :=
  if char.isDigit then some (digitValue char)
  else if 'a' ≤ char ∧ char ≤ 'f' then some (char.toNat - 'a'.toNat + 10)
  else if 'A' ≤ char ∧ char ≤ 'F' then some (char.toNat - 'A'.toNat + 10)
  else none

theorem hexDigit?_hexDigit {ten : Char} (letter : ten = 'a' ∨ ten = 'A') {digit : Nat}
    (small : digit < 16) : hexDigit? (hexDigit ten digit) = some digit := by
  have both : ∀ digit : Fin 16, hexDigit? (hexDigit 'a' digit) = some digit.val ∧
      hexDigit? (hexDigit 'A' digit) = some digit.val := by
    decide
  rcases letter with rfl | rfl
  · exact (both ⟨digit, small⟩).1
  · exact (both ⟨digit, small⟩).2

end TextScanner
