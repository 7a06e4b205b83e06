import TextScanner.Decimal.Shortest
import TextScanner.Text.Digits

/-!
# JSON documents

A document is kept close to its text: numbers keep their digits, and members of
an object their order and repetitions.  A string can be written with half of a
surrogate pair and then denotes no text; such a string is kept without one.
-/

namespace TextScanner

/-- The digits of a number in a document. -/
structure Numeral where
  negative : Bool
  whole : List Char
  /-- The digits behind the point, if there is one. -/
  fraction : Option (List Char)
  /-- The sign and the digits of the exponent, if there is one. -/
  exponent : Option (Bool × List Char)
  deriving DecidableEq, Repr

/-- A JSON document. -/
inductive Json where
  | null
  | boolean (flag : Bool)
  | number (numeral : Numeral)
  | string (text : Option String)
  | array (items : List Json)
  | object (members : List (Option String × Json))
  deriving Inhabited

/-- The decimal of a numeral, without its sign. -/
def Numeral.toDecimal (numeral : Numeral) : Decimal :=
  let fraction := numeral.fraction.getD []
  let scale : Int :=
    match numeral.exponent with
    | none => 0
    | some (true, digits) => -Int.ofNat (digitsValue digits)
    | some (false, digits) => Int.ofNat (digitsValue digits)
  ⟨digitsValue (numeral.whole ++ fraction), scale - fraction.length⟩

/-- The number nearest to a numeral. -/
def Numeral.toFloat (numeral : Numeral) : Float :=
  if numeral.negative then -numeral.toDecimal.toFloat else numeral.toDecimal.toFloat

/-- The whole part of a numeral. -/
def Numeral.toInt (numeral : Numeral) : Int :=
  if numeral.negative then -Int.ofNat (digitsValue numeral.whole)
  else Int.ofNat (digitsValue numeral.whole)

/-- The whole number of a numeral without fraction, exponent and sign. -/
def Numeral.toNat? (numeral : Numeral) : Option Nat :=
  if numeral.negative || numeral.fraction.isSome || numeral.exponent.isSome then none
  else some (digitsValue numeral.whole)

end TextScanner
