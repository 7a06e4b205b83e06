import TextScanner.Decimal.Shortest

/-!
# Writing numbers

A notation says how the shortest decimal of a number is laid out: which
numbers are written with a point and no exponent, whether a whole number gets
a fraction, and what is written for the numbers that are not finite.
-/

namespace TextScanner

/-- The decisions of a number format. -/
structure Notation where
  /-- Whether a number is written without exponent, by the place of its point
  relative to its first digit. -/
  positional : Int → Bool
  /-- What follows the digits of a whole number written without exponent. -/
  wholeFraction : String
  /-- Which of two equally near shortest decimals is written. -/
  tie : Tie
  /-- The text of a number that is none. -/
  notANumber : String
  /-- The text of an unbounded number, without its sign. -/
  infinite : String

namespace Notation

/-- The digits of a decimal around its point. -/
def layPositional (style : Notation) (digits : List Char) (point : Int) : List Char :=
  if point ≤ 0 then
    ['0', '.'] ++ List.replicate point.natAbs '0' ++ digits
  else if digits.length ≤ point.natAbs then
    digits ++ List.replicate (point.natAbs - digits.length) '0' ++ style.wholeFraction.toList
  else digits.take point.natAbs ++ '.' :: digits.drop point.natAbs

/-- One digit, the other digits behind a point, and the exponent. -/
def layExponential (digits : List Char) (point : Int) : List Char :=
  let fraction :=
    match digits.drop 1 with
    | [] => []
    | others => '.' :: others
  digits.take 1 ++ fraction ++ 'e' :: (toString (point - 1)).toList

/-- Lay out a decimal. -/
def lay (style : Notation) (decimal : Decimal) : List Char :=
  let digits := Nat.toDigits 10 decimal.significand
  let point := digits.length + decimal.exponent
  if style.positional point then style.layPositional digits point
  else layExponential digits point

/-- The text of a number. -/
def write (style : Notation) (number : Float) : String :=
  match Binary.ofFloat number with
  | .notANumber => style.notANumber
  | .infinite negative => (if negative then "-" else "") ++ style.infinite
  | .finite negative significand exponent =>
      let magnitude :=
        if significand = 0 then ⟨0, 0⟩
        else Decimal.shortest style.tie number.abs (Decimal.ofBinary significand exponent)
      String.ofList ((if negative then ['-'] else []) ++ style.lay magnitude)

/-- Numbers in values and options: digits and a point only, and no fraction
on whole numbers. -/
def plain : Notation where
  positional := fun _ => true
  wholeFraction := ""
  tie := .away
  notANumber := "NaN"
  infinite := "inf"

/-- Numbers in inspected values: whole numbers carry a fraction, and numbers
below `1e-4` or from `1e16` on an exponent. -/
def inspected : Notation where
  positional := fun point => -4 < point && point ≤ 16
  wholeFraction := ".0"
  tie := .away
  notANumber := "NaN"
  infinite := "inf"

/-- Numbers in stored values: whole numbers carry a fraction, numbers below
`1e-5` or from `1e16` on an exponent, and numbers that are not finite are
null. -/
def stored : Notation where
  positional := fun point => -5 < point && point ≤ 16
  wholeFraction := ".0"
  tie := .even
  notANumber := "null"
  infinite := "null"

end Notation

end TextScanner
