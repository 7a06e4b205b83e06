import TextScanner.Pattern.Error
import TextScanner.Pattern.Expression
import TextScanner.Pattern.Node
import TextScanner.Unicode.Property
import TextScanner.Unicode.Script

/-!
# The meaning of patterns

What an expression matches depends on the flags in force where it stands.  A
group may set flags for its inside; switches stay in force up to the end of the
group they stand in, across its branches.

Patterns are matched against text.  Without the flag for Unicode, classes are
classes of bytes, and one that holds bytes beyond ASCII would match parts of
characters; such classes are faults, and so is every negated class, the point,
and every class that needs to know more than bytes.
-/

namespace TextScanner.Pattern

/-- The flags in force. -/
structure Mode where
  ignoreCase : Bool := false
  multiLine : Bool := false
  pointMatchesAll : Bool := false
  swapGreed : Bool := false
  unicode : Bool := true
  carriageReturn : Bool := false
  deriving DecidableEq, Repr

namespace Mode

/-- Put one switch into force. -/
def set (mode : Mode) (flag : Flag) (on : Bool) : Mode :=
  match flag with
  | .ignoreCase => { mode with ignoreCase := on }
  | .multiLine => { mode with multiLine := on }
  | .pointMatchesAll => { mode with pointMatchesAll := on }
  | .swapGreed => { mode with swapGreed := on }
  | .unicode => { mode with unicode := on }
  | .carriageReturn => { mode with carriageReturn := on }
  | .verbose => mode

/-- Put switches into force. -/
def apply (mode : Mode) (switches : Switches) : Mode :=
  switches.foldl (fun mode switch => mode.set switch.1 switch.2) mode

/-- Close a class under case if case is ignored. -/
def fold (mode : Mode) (members : CharClass) : CharClass :=
  if mode.ignoreCase then
    if mode.unicode then .caseClosure members else .asciiCaseClosure members
  else members

/-- The class or its complement, closed under case before. -/
def close (mode : Mode) (negated : Bool) (members : CharClass) :
    Except PatternError CharClass :=
  if !negated then .ok (mode.fold members)
  else if mode.unicode then .ok (.complement (mode.fold members))
  else .error .notText

end Mode

/-! ## Classes -/

/-- The ASCII characters of a named class. -/
def AsciiClass.members : AsciiClass → CharClass
  | .alnum => .ofRanges [('0', '9'), ('A', 'Z'), ('a', 'z')]
  | .alpha => .ofRanges [('A', 'Z'), ('a', 'z')]
  | .ascii => .range '\x00' '\x7f'
  | .blank => .ofRanges [('\t', '\t'), (' ', ' ')]
  | .cntrl => .ofRanges [('\x00', '\x1f'), ('\x7f', '\x7f')]
  | .digit => .range '0' '9'
  | .graph => .range '!' '~'
  | .lower => .range 'a' 'z'
  | .print => .range ' ' '~'
  | .punct => .ofRanges [('!', '/'), (':', '@'), ('[', '`'), ('\x7b', '~')]
  | .space => .ofRanges [('\t', '\r'), (' ', ' ')]
  | .upper => .range 'A' 'Z'
  | .word => .ofRanges [('0', '9'), ('A', 'Z'), ('_', '_'), ('a', 'z')]
  | .xdigit => .ofRanges [('0', '9'), ('A', 'F'), ('a', 'f')]

/-- The members of a class with a letter of its own. -/
def ShortClass.members (unicode : Bool) : ShortClass → CharClass
  | .digit => if unicode then .property Unicode.isDigit else AsciiClass.digit.members
  | .blank => if unicode then .property Unicode.isBlank else AsciiClass.space.members
  | .word => if unicode then .property Unicode.isWord else AsciiClass.word.members

/-- A property name in small letters, without blanks, hyphens, low lines, a
leading "is", and characters beyond ASCII. -/
def plainPropertyName (name : String) : String :=
  let chars := name.toList
  let beginsWithIs := (chars.take 2).map Char.toLower == ['i', 's']
  let chars := if beginsWithIs then chars.drop 2 else chars
  let kept := (chars.filter fun char =>
    char.toNat < 0x80 && char != ' ' && char != '_' && char != '-').map Char.toLower
  if beginsWithIs && kept == ['c'] then "isc" else String.ofList kept

/-- The characters of general categories, or all, all assigned, or all ASCII
characters. -/
def categoryProperty? : String → Option (Char → Bool)
  | "any" => some fun _ => true
  | "assigned" => some fun char => Unicode.Category.of char != .unassigned
  | "ascii" => some fun char => char.toNat < 0x80
  | name => (Unicode.Category.ofName? name).map fun member char =>
      member (Unicode.Category.of char)

/-- The characters of a script. -/
def scriptProperty? (name : String) : Option (Char → Bool) :=
  (Unicode.findScript? name).map fun script char => Unicode.scriptOf char == script

/-- The characters with a property that has no values. -/
def binaryProperty? : String → Option (Char → Bool)
  | "alphabetic" | "alpha" => some Unicode.isAlphabetic
  | "lowercase" | "lower" => some Unicode.isLowercase
  | "uppercase" | "upper" => some Unicode.isUppercase
  | "whitespace" | "wspace" | "space" => some Unicode.isBlank
  | "graphemeextend" | "grext" => some Unicode.isExtending
  | _ => none

/-- The characters with a property, by its name and perhaps its value. -/
def property? (name : String) (value : Option String) : Option (Char → Bool) :=
  let name := plainPropertyName name
  match value with
  | none => ((binaryProperty? name).or (categoryProperty? name)).or (scriptProperty? name)
  | some value =>
      let value := plainPropertyName value
      match name with
      | "gc" | "generalcategory" => categoryProperty? value
      | "sc" | "script" => scriptProperty? value
      | _ => none

/-- The members of a class with a letter of its own, or of its complement. -/
def shortClass (mode : Mode) (name : ShortClass) (negated : Bool) :
    Except PatternError CharClass :=
  let members := name.members mode.unicode
  if !negated then .ok members
  else if mode.unicode then .ok (.complement members)
  else .error .notText

/-- The members of a property class. -/
def propertyClass (mode : Mode) (name : String) (value : Option String) (negated : Bool) :
    Except PatternError CharClass :=
  if !mode.unicode then .error .notByte
  else
    match property? name value with
    | none => .error .unknownClass
    | some holds => mode.close negated (.property holds)

/-- A character of a class.  Without Unicode it must be an ASCII character. -/
def classLetter (mode : Mode) (letter : Letter) : Except PatternError Char :=
  if mode.unicode || letter.char.toNat < 0x80 then .ok letter.char else .error .notByte

mutual

/-- The members of a class. -/
def classMeaning (mode : Mode) : ClassExpr → Except PatternError CharClass
  | .empty => .ok .empty
  | .letter letter => do .ok (.single (← classLetter mode letter))
  | .range low high => do .ok (.range (← classLetter mode low) (← classLetter mode high))
  | .ascii name negated => mode.close negated name.members
  | .short name negated => shortClass mode name negated
  | .property name value negated => propertyClass mode name value negated
  | .bracketed negated inside => do mode.close negated (← classMeaning mode inside)
  | .union items => unionMeaning mode items
  | .combined operator left right => do
      let left := mode.fold (← classMeaning mode left)
      let right := mode.fold (← classMeaning mode right)
      match operator with
      | .intersection => .ok (.intersection left right)
      | .difference => .ok (.difference left right)
      | .symmetricDifference => .ok (.symmetricDifference left right)

/-- The members of any of several classes. -/
def unionMeaning (mode : Mode) : List ClassExpr → Except PatternError CharClass
  | [] => .ok .empty
  | item :: rest => do
      let first ← classMeaning mode item
      .ok (.union first (← unionMeaning mode rest))

end

/-! ## Expressions -/

/-- One character. -/
def letterMeaning (mode : Mode) (letter : Letter) : Except PatternError Node :=
  if !mode.unicode && letter.byte && 0x80 ≤ letter.char.toNat then .error .notText
  else .ok (.one (mode.fold (.single letter.char)))

/-- The point: every character, or every character but the ends of lines. -/
def pointMeaning (mode : Mode) : Except PatternError Node :=
  if !mode.unicode then .error .notText
  else if mode.pointMatchesAll then .ok (.one (.complement .empty))
  else if mode.carriageReturn then
    .ok (.one (.complement (.union (.single '\r') (.single '\n'))))
  else .ok (.one (.complement (.single '\n')))

/-- A place. -/
def assertionMeaning (mode : Mode) (kind : Assertion) : Node :=
  let isWord := if mode.unicode then Unicode.isWord else AsciiClass.word.members.contains
  let place (kind : Place) : Node := .place kind isWord
  match kind with
  | .textStart => place .textStart
  | .textEnd => place .textEnd
  | .lineStart =>
      if !mode.multiLine then place .textStart
      else if mode.carriageReturn then place .returnLineStart
      else place .lineStart
  | .lineEnd =>
      if !mode.multiLine then place .textEnd
      else if mode.carriageReturn then place .returnLineEnd
      else place .lineEnd
  | .wordBoundary => place .wordBoundary
  | .notWordBoundary => place .notWordBoundary
  | .wordStart => place .wordStart
  | .wordEnd => place .wordEnd
  | .wordStartHalf => place .wordStartHalf
  | .wordEndHalf => place .wordEndHalf

mutual

/-- The node of an expression, and the flags in force after it. -/
def meaning (mode : Mode) : Expr → Except PatternError (Node × Mode)
  | .empty => .ok (.empty, mode)
  | .switches switches => .ok (.empty, mode.apply switches)
  | .letter letter => do .ok (← letterMeaning mode letter, mode)
  | .point => do .ok (← pointMeaning mode, mode)
  | .assertion kind => .ok (assertionMeaning mode kind, mode)
  | .short name negated => do .ok (.one (← shortClass mode name negated), mode)
  | .property name value negated => do
      .ok (.one (← propertyClass mode name value negated), mode)
  | .bracketed negated inside => do
      .ok (.one (← mode.close negated (← classMeaning mode inside)), mode)
  | .repeated least most greedy body => do
      let (node, mode) ← meaning mode body
      .ok (node.repeated (greedy != mode.swapGreed) least most, mode)
  | .group switches body => do
      let (node, _) ← meaning (mode.apply switches) body
      .ok (node, mode)
  | .sequence items => sequenceMeaning mode items
  | .choice branches => choiceMeaning mode branches

/-- One expression after another. -/
def sequenceMeaning (mode : Mode) : List Expr → Except PatternError (Node × Mode)
  | [] => .ok (.empty, mode)
  | item :: rest => do
      let (first, mode) ← meaning mode item
      let (others, mode) ← sequenceMeaning mode rest
      .ok (.sequence first others, mode)

/-- One of several expressions, in order of preference. -/
def choiceMeaning (mode : Mode) : List Expr → Except PatternError (Node × Mode)
  | [] => .ok (.empty, mode)
  | [branch] => meaning mode branch
  | branch :: next :: rest => do
      let (first, mode) ← meaning mode branch
      let (others, mode) ← choiceMeaning mode (next :: rest)
      .ok (.choice first others, mode)

end

end TextScanner.Pattern
