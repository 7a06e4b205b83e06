import TextScanner.Decimal.Shortest
import TextScanner.Json

/-!
# Stored numbers

How one library (`compact`) reads numbers.  The digits of a stored number are
gathered into a significand below `2 ^ 64`.
Digits of the whole part that do not fit scale the number by ten each, digits of
the fraction that do not fit are left out.  The significand is then scaled once
by a power of ten; each of these two steps rounds to the nearest number.  A
number beyond the greatest finite one is refused.
-/

namespace TextScanner.Stored

/-- Where gathered significands end. -/
def significandLimit : Nat := Nat.pow 2 64

/-- Gather whole digits as long as they fit; returns the number of digits that
did not. -/
def gatherWhole : (significand : Nat) → List Char → Nat × Nat
  | significand, [] => (significand, 0)
  | significand, digit :: rest =>
      let next := 10 * significand + digitValue digit
      if next < significandLimit then gatherWhole next rest
      else (significand, rest.length + 1)

/-- Gather fraction digits as long as they fit; returns the number of digits
that did. -/
def gatherFraction : (significand gathered : Nat) → List Char → Nat × Nat
  | significand, gathered, [] => (significand, gathered)
  | significand, gathered, digit :: rest =>
      let next := 10 * significand + digitValue digit
      if next < significandLimit then gatherFraction next (gathered + 1) rest
      else (significand, gathered)

/-- The number nearest to a whole number. -/
def nearest (number : Nat) : Float :=
  Float.ofScientific number false 0

/-- The number nearest to a power of ten. -/
def powerOfTen (exponent : Nat) : Float :=
  Float.ofScientific 1 false exponent

/-- The greatest power of ten that is used in one step. -/
def greatestPower : Nat := 308

/-- Scale a number down by a power of ten, in steps where one is not enough. -/
def scaleDown : (fuel : Nat) → Float → (exponent : Nat) → Float
  | 0, number, _ => number
  | fuel + 1, number, exponent =>
      if exponent ≤ greatestPower then number / powerOfTen exponent
      else if number == 0 then number
      else scaleDown fuel (number / powerOfTen greatestPower) (exponent - greatestPower)

/-- Scale a significand by a power of ten. -/
def scale? (significand : Nat) (exponent : Int) : Option Float :=
  let number := nearest significand
  if 0 ≤ exponent then
    if exponent.natAbs ≤ greatestPower then
      let scaled := number * powerOfTen exponent.natAbs
      if scaled.isInf then none else some scaled
    else if number == 0 then some number
    else none
  else some (scaleDown (exponent.natAbs + 1) number exponent.natAbs)

/-- The greatest exponent that is read as such. -/
def exponentLimit : Nat := Nat.pow 2 31

/-- The number of a numeral without its sign. -/
def magnitude? (numeral : Numeral) : Option Float :=
  let (significand, dropped) := gatherWhole 0 numeral.whole
  let (significand, gathered) := gatherFraction significand 0 (numeral.fraction.getD [])
  let start : Int := Int.ofNat dropped - Int.ofNat gathered
  match numeral.exponent with
  | none => scale? significand start
  | some (negative, digits) =>
      let exponent := digitsValue digits
      if exponentLimit ≤ exponent then
        if significand = 0 ∨ negative then some 0 else none
      else if negative then scale? significand (start - exponent)
      else scale? significand (start + exponent)

/-- The number of a numeral. -/
def number? (numeral : Numeral) : Option Float :=
  (magnitude? numeral).map fun number => if numeral.negative then -number else number

end TextScanner.Stored
