/-!
# The fewest decimal digits of a binary number

A double-precision number is a whole significand times a power of two.  Among
the decimals that read back to a given number, `shortest` chooses one with the
fewest digits, and of those the nearest to the number; what happens to two
that are equally near is left to the caller.

The search tries one digit, then two, and so on.  On each grid only the two
neighbours of the number can be nearest, so only they are tried, and a
neighbour counts when reading it gives the number back.
-/

namespace TextScanner

/-- The decimal `significand * 10 ^ exponent`. -/
structure Decimal where
  significand : Nat
  exponent : Int
  deriving DecidableEq, Repr

/-- A number taken apart. -/
inductive Binary where
  | notANumber
  | infinite (negative : Bool)
  /-- The number `significand * 2 ^ exponent` with a sign. -/
  | finite (negative : Bool) (significand : Nat) (exponent : Int)
  deriving DecidableEq, Repr

/-- Which of two equally near decimals is chosen. -/
inductive Tie where
  /-- The larger in magnitude. -/
  | away
  /-- The one with an even last digit. -/
  | even
  deriving DecidableEq, Repr

/-- Take a number apart along its bits: a sign, eleven bits of exponent and
fifty-two bits of fraction. -/
def Binary.ofFloat (number : Float) : Binary :=
  let bits := number.toBits.toNat
  let negative := bits / Nat.pow 2 63 == 1
  let scale := bits / Nat.pow 2 52 % Nat.pow 2 11
  let fraction := bits % Nat.pow 2 52
  if scale = 2047 then
    if fraction = 0 then .infinite negative else .notANumber
  else if scale = 0 then .finite negative fraction (-1074)
  else .finite negative (Nat.pow 2 52 + fraction) (Int.ofNat scale - 1075)

/-- The whole number next to a number on the way to zero; within 64 bits, and
zero for a number that is none. -/
def Binary.truncate (number : Binary) : Int :=
  let clamp (negative : Bool) (size : Nat) : Int :=
    if negative then -Int.ofNat (min size (Nat.pow 2 63))
    else Int.ofNat (min size (Nat.pow 2 63 - 1))
  match number with
  | .notANumber => 0
  | .infinite negative => clamp negative (Nat.pow 2 63)
  | .finite negative significand exponent =>
      if exponent < 0 then clamp negative (significand / Nat.pow 2 exponent.natAbs)
      else clamp negative (significand * Nat.pow 2 exponent.natAbs)

namespace Decimal

/-- The number nearest to a decimal. -/
def toFloat (decimal : Decimal) : Float :=
  if decimal.exponent < 0 then
    Float.ofScientific decimal.significand true decimal.exponent.natAbs
  else
    Float.ofScientific decimal.significand false decimal.exponent.natAbs

/-- The exact decimal of `significand * 2 ^ exponent`. -/
def ofBinary (significand : Nat) (exponent : Int) : Decimal :=
  if exponent < 0 then ⟨significand * Nat.pow 5 exponent.natAbs, exponent⟩
  else ⟨significand * Nat.pow 2 exponent.natAbs, 0⟩

/-- How many digits a whole number has. -/
def digitCount (number : Nat) : Nat :=
  (Nat.toDigits 10 number).length

/-- Move zeros at the end of the significand into the exponent, at most
`fuel` of them. -/
def dropZeros : Nat → Decimal → Decimal
  | 0, decimal => decimal
  | fuel + 1, decimal =>
      if decimal.significand ≠ 0 ∧ decimal.significand % 10 = 0 then
        dropZeros fuel ⟨decimal.significand / 10, decimal.exponent + 1⟩
      else decimal

/-- Of the two neighbours of `exact` on the grid of step `10 ^ width`, the
nearest that reads back to `number`. -/
def neighbour? (tie : Tie) (number : Float) (exact : Decimal) (width : Nat) :
    Option Decimal :=
  let step := Nat.pow 10 width
  let below := exact.significand / step
  let excess := exact.significand % step
  let at? (significand : Nat) : Option Decimal :=
    let candidate : Decimal := ⟨significand, exact.exponent + width⟩
    if candidate.toFloat == number then some candidate else none
  let preferAbove : Bool :=
    match tie with
    | .away => step ≤ 2 * excess
    | .even => step < 2 * excess || (step == 2 * excess && below % 2 == 1)
  if excess = 0 then at? below
  else if preferAbove then (at? (below + 1)).or (at? below)
  else (at? below).or (at? (below + 1))

/-- Try the grids whose steps are `10 ^ width`, from the coarsest on. -/
def search (tie : Tie) (number : Float) (exact : Decimal) : Nat → Decimal
  | 0 => exact
  | width + 1 =>
      match neighbour? tie number exact width with
      | some decimal => decimal
      | none => search tie number exact width

/-- The decimal with the fewest digits that reads back to the positive number
whose exact decimal is `exact`. -/
def shortest (tie : Tie) (number : Float) (exact : Decimal) : Decimal :=
  let digits := digitCount exact.significand
  let found := search tie number exact digits
  dropZeros (digitCount found.significand) found

end Decimal

end TextScanner
