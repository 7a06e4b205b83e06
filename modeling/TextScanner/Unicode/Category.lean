import TextScanner.Unicode.Category.Table
import TextScanner.Unicode.Runs

/-!
# General categories

Every code point has one of thirty general categories; the categories fall
into seven groups.  A category is known by a two-letter abbreviation and by a
long name.
-/

namespace TextScanner.Unicode

/-- The general category of a code point. -/
inductive Category where
  | uppercaseLetter | lowercaseLetter | titlecaseLetter | modifierLetter | otherLetter
  | nonspacingMark | spacingMark | enclosingMark
  | decimalNumber | letterNumber | otherNumber
  | connectorPunctuation | dashPunctuation | openPunctuation | closePunctuation
  | initialPunctuation | finalPunctuation | otherPunctuation
  | mathSymbol | currencySymbol | modifierSymbol | otherSymbol
  | spaceSeparator | lineSeparator | paragraphSeparator
  | control | format | surrogate | privateUse | unassigned
  deriving DecidableEq, Repr, Inhabited

namespace Category

/-- The category of a two-letter abbreviation. -/
def ofAbbreviation? : String → Option Category
  | "Lu" => some uppercaseLetter
  | "Ll" => some lowercaseLetter
  | "Lt" => some titlecaseLetter
  | "Lm" => some modifierLetter
  | "Lo" => some otherLetter
  | "Mn" => some nonspacingMark
  | "Mc" => some spacingMark
  | "Me" => some enclosingMark
  | "Nd" => some decimalNumber
  | "Nl" => some letterNumber
  | "No" => some otherNumber
  | "Pc" => some connectorPunctuation
  | "Pd" => some dashPunctuation
  | "Ps" => some openPunctuation
  | "Pe" => some closePunctuation
  | "Pi" => some initialPunctuation
  | "Pf" => some finalPunctuation
  | "Po" => some otherPunctuation
  | "Sm" => some mathSymbol
  | "Sc" => some currencySymbol
  | "Sk" => some modifierSymbol
  | "So" => some otherSymbol
  | "Zs" => some spaceSeparator
  | "Zl" => some lineSeparator
  | "Zp" => some paragraphSeparator
  | "Cc" => some control
  | "Cf" => some format
  | "Cs" => some surrogate
  | "Co" => some privateUse
  | "Cn" => some unassigned
  | _ => none

/-- The runs of the general category. -/
def runs : Runs Category := Runs.ofLines ofAbbreviation? categoryLines

/-- The general category of a character. -/
def of (char : Char) : Category :=
  (runs.at? char.toNat).getD unassigned

/-- Letters of any case, and letters without case. -/
def isLetter : Category → Bool
  | uppercaseLetter | lowercaseLetter | titlecaseLetter | modifierLetter | otherLetter => true
  | _ => false

/-- Letters that have a case. -/
def isCased : Category → Bool
  | uppercaseLetter | lowercaseLetter | titlecaseLetter => true
  | _ => false

def isMark : Category → Bool
  | nonspacingMark | spacingMark | enclosingMark => true
  | _ => false

def isNumber : Category → Bool
  | decimalNumber | letterNumber | otherNumber => true
  | _ => false

def isPunctuation : Category → Bool
  | connectorPunctuation | dashPunctuation | openPunctuation | closePunctuation
  | initialPunctuation | finalPunctuation | otherPunctuation => true
  | _ => false

def isSymbol : Category → Bool
  | mathSymbol | currencySymbol | modifierSymbol | otherSymbol => true
  | _ => false

def isSeparator : Category → Bool
  | spaceSeparator | lineSeparator | paragraphSeparator => true
  | _ => false

/-- Controls and code points without a character. -/
def isOther : Category → Bool
  | control | format | surrogate | privateUse | unassigned => true
  | _ => false

/-- The categories a name stands for.  The name is in small letters, without
blanks, hyphens and low lines. -/
def ofName? : String → Option (Category → Bool)
  | "l" | "letter" => some isLetter
  | "lc" | "casedletter" => some isCased
  | "m" | "mark" | "combiningmark" => some isMark
  | "n" | "number" => some isNumber
  | "p" | "punctuation" | "punct" => some isPunctuation
  | "s" | "symbol" => some isSymbol
  | "z" | "separator" => some isSeparator
  | "c" | "other" => some isOther
  | "lu" | "uppercaseletter" => some (· == uppercaseLetter)
  | "ll" | "lowercaseletter" => some (· == lowercaseLetter)
  | "lt" | "titlecaseletter" => some (· == titlecaseLetter)
  | "lm" | "modifierletter" => some (· == modifierLetter)
  | "lo" | "otherletter" => some (· == otherLetter)
  | "mn" | "nonspacingmark" => some (· == nonspacingMark)
  | "mc" | "spacingmark" => some (· == spacingMark)
  | "me" | "enclosingmark" => some (· == enclosingMark)
  | "nd" | "decimalnumber" | "digit" => some (· == decimalNumber)
  | "nl" | "letternumber" => some (· == letterNumber)
  | "no" | "othernumber" => some (· == otherNumber)
  | "pc" | "connectorpunctuation" => some (· == connectorPunctuation)
  | "pd" | "dashpunctuation" => some (· == dashPunctuation)
  | "ps" | "openpunctuation" => some (· == openPunctuation)
  | "pe" | "closepunctuation" => some (· == closePunctuation)
  | "pi" | "initialpunctuation" => some (· == initialPunctuation)
  | "pf" | "finalpunctuation" => some (· == finalPunctuation)
  | "po" | "otherpunctuation" => some (· == otherPunctuation)
  | "sm" | "mathsymbol" => some (· == mathSymbol)
  | "sc" | "currencysymbol" => some (· == currencySymbol)
  | "sk" | "modifiersymbol" => some (· == modifierSymbol)
  | "so" | "othersymbol" => some (· == otherSymbol)
  | "zs" | "spaceseparator" => some (· == spaceSeparator)
  | "zl" | "lineseparator" => some (· == lineSeparator)
  | "zp" | "paragraphseparator" => some (· == paragraphSeparator)
  | "cc" | "control" | "cntrl" => some (· == control)
  | "cf" | "format" => some (· == format)
  | "cs" | "surrogate" => some (· == surrogate)
  | "co" | "privateuse" => some (· == privateUse)
  | "cn" | "unassigned" => some (· == unassigned)
  | _ => none

end Category

end TextScanner.Unicode
