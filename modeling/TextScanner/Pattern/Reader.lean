import TextScanner.Pattern.Lexeme

/-!
# Reading patterns

The source of a pattern is read into an expression.  Groups and bracketed
classes nest, and the reader keeps the levels it is inside of; every step of
its loop consumes a character, so the length of the source bounds the number
of steps.
-/

namespace TextScanner.Pattern

/-! ## Bracketed classes -/

/-- A bracketed class that is being read: the items since the last operator,
the latest first, and what stands before that operator. -/
structure ClassLevel where
  negated : Bool
  before : Option (ClassExpr × ClassOperator) := none
  items : List ClassExpr := []

namespace ClassLevel

def push (level : ClassLevel) (item : ClassExpr) : ClassLevel :=
  { level with items := item :: level.items }

/-- Everything read so far; operators group to the left. -/
def inside (level : ClassLevel) : ClassExpr :=
  let items := ClassExpr.ofItems level.items.reverse
  match level.before with
  | none => items
  | some (left, operator) => .combined operator left items

def operator (level : ClassLevel) (operator : ClassOperator) : ClassLevel :=
  { level with before := some (level.inside, operator), items := [] }

end ClassLevel

/-- The class of ASCII characters with a name. -/
def AsciiClass.ofName? : String → Option AsciiClass
  | "alnum" => some .alnum
  | "alpha" => some .alpha
  | "ascii" => some .ascii
  | "blank" => some .blank
  | "cntrl" => some .cntrl
  | "digit" => some .digit
  | "graph" => some .graph
  | "lower" => some .lower
  | "print" => some .print
  | "punct" => some .punct
  | "space" => some .space
  | "upper" => some .upper
  | "word" => some .word
  | "xdigit" => some .xdigit
  | _ => none

/-- A named class of ASCII characters between `[:` and `:]`, if one stands
here. -/
def asciiClass? : List Char → Option (ClassExpr × List Char)
  | '[' :: ':' :: chars =>
      let negated := chars.head? == some '^'
      let chars := if negated then chars.drop 1 else chars
      match chars.dropWhile (· ≠ ':') with
      | ':' :: ']' :: rest =>
          (AsciiClass.ofName? (String.ofList (chars.takeWhile (· ≠ ':')))).map fun name =>
            (.ascii name negated, rest)
      | _ => none
  | _ => none

/-- Read the beginning of a bracketed class.  Hyphens that come first stand for
themselves, and so does a closing bracket that comes before anything else. -/
def readClassStart (verbose : Bool) (chars : List Char) : Except PatternError (Taken ClassLevel) :=
  let rest := advance verbose chars
  let negated := rest.head? == some '^'
  let rest := if negated then advance verbose rest else rest
  let (hyphens, rest) := collectAll verbose (· == '-') rest
  let items := hyphens.map fun char => ClassExpr.letter { char }
  match items, rest with
  | _, [] => .error .unclosedClass
  | [], ']' :: after =>
      .ok ({ negated, items := [.letter { char := ']' }] }, skip verbose after)
  | _, _ => .ok ({ negated, items }, rest)

/-- Read one character or escape of a class. -/
def readClassAtom (verbose : Bool) : List Char → Except PatternError (Taken Expr)
  | [] => .error .unclosedClass
  | '\\' :: rest => readEscape verbose rest
  | char :: rest => .ok (.letter { char }, rest)

/-- The first character that a hyphen in a verbose class is compared with:
blanks and the sign of a comment are passed over. -/
def peekNoise : (inComment : Bool) → List Char → Option Char
  | _, [] => none
  | inComment, char :: rest =>
      if Unicode.isBlank char then peekNoise inComment rest
      else if !inComment && char == '#' then peekNoise true rest
      else some char

/-- The character that decides whether a hyphen forms a range. -/
def peek (verbose : Bool) (chars : List Char) : Option Char :=
  if verbose then (peekNoise false chars).or chars.head? else chars.head?

/-- The class of one item; assertions and the like are none. -/
def classOfAtom : Expr → Except PatternError ClassExpr
  | .letter letter => .ok (.letter letter)
  | .short name negated => .ok (.short name negated)
  | .property name value negated => .ok (.property name value negated)
  | _ => .error .invalidClassItem

/-- Read a single item of a class or a range. -/
def readClassItem (verbose : Bool) (chars : List Char) : Except PatternError (Taken ClassExpr) := do
  let (first, rest) ← readClassAtom verbose chars
  match skip verbose rest with
  | [] => .error .unclosedClass
  | char :: rest =>
      let next := peek verbose rest
      if char ≠ '-' || next == some ']' || next == some '-' then
        return (← classOfAtom first, char :: rest)
      let (second, rest) ← readClassAtom verbose (skip verbose rest)
      match first, second with
      | .letter low, .letter high =>
          if high.char < low.char then .error .reversedBounds
          else .ok (.range low high, rest)
      | _, _ => .error .invalidClassItem

/-- Read on in a class with levels around it. -/
def readClassItems (verbose : Bool) : Nat → ClassLevel → List ClassLevel → List Char →
    Except PatternError (Taken ClassLevel)
  | 0, _, _, _ => .error .unclosedClass
  | fuel + 1, level, outer, chars => do
      match skip verbose chars with
      | [] => .error .unclosedClass
      | '[' :: rest =>
          match asciiClass? ('[' :: rest) with
          | some (item, rest) => readClassItems verbose fuel (level.push item) outer rest
          | none =>
              let (inner, rest) ← readClassStart verbose ('[' :: rest)
              readClassItems verbose fuel inner (level :: outer) rest
      | ']' :: rest =>
          match outer with
          | [] => .ok (level, rest)
          | parent :: others =>
              let parent := parent.push (.bracketed level.negated level.inside)
              readClassItems verbose fuel parent others rest
      | '&' :: '&' :: rest =>
          readClassItems verbose fuel (level.operator .intersection) outer rest
      | '-' :: '-' :: rest =>
          readClassItems verbose fuel (level.operator .difference) outer rest
      | '~' :: '~' :: rest =>
          readClassItems verbose fuel (level.operator .symmetricDifference) outer rest
      | chars =>
          let (item, rest) ← readClassItem verbose chars
          readClassItems verbose fuel (level.push item) outer rest

/-- Read a bracketed class; the characters start with its bracket. -/
def readClass (verbose : Bool) (chars : List Char) : Except PatternError (Taken Expr) := do
  let (level, rest) ← readClassStart verbose chars
  let (level, rest) ← readClassItems verbose chars.length level [] rest
  .ok (.bracketed level.negated level.inside, rest)

/-! ## Groups -/

/-- A group that is being read: the branches before the current one and the
items of the current one, the latest first. -/
structure GroupLevel where
  branches : List Expr := []
  items : List Expr := []

namespace GroupLevel

def push (level : GroupLevel) (item : Expr) : GroupLevel :=
  { level with items := item :: level.items }

/-- The current branch. -/
def branch (level : GroupLevel) : Expr :=
  Expr.ofItems level.items.reverse

/-- Begin another branch. -/
def split (level : GroupLevel) : GroupLevel :=
  { branches := level.branch :: level.branches }

/-- Everything read so far. -/
def body (level : GroupLevel) : Expr :=
  match level.branches with
  | [] => level.branch
  | branches => .choice (branches.reverse ++ [level.branch])

/-- Repeat the last item. -/
def repeatLast (level : GroupLevel) (least : Nat) (most : Option Nat) (greedy : Bool) :
    Except PatternError GroupLevel :=
  match level.items with
  | [] | .empty :: _ | .switches _ :: _ => .error .nothingToRepeat
  | last :: others => .ok { level with items := .repeated least most greedy last :: others }

end GroupLevel

/-- What the reader returns to when a group ends. -/
structure Outer where
  level : GroupLevel
  switches : Switches
  verbose : Bool

/-- What a parenthesis opens: a group, by its name if it has one, or switches
for the group around it. -/
inductive Opening where
  | group (switches : Switches)
  | named (name : String)
  | switches (switches : Switches)

/-- Read the beginning of a group; the characters start with its
parenthesis. -/
def readOpening (verbose : Bool) (chars : List Char) : Except PatternError (Taken Opening) := do
  let named (chars : List Char) : Except PatternError (Taken Opening) := do
    let (name, rest) ← readGroupName chars
    .ok (.named name, rest)
  match advance verbose chars with
  | '?' :: '=' :: _ | '?' :: '!' :: _ | '?' :: '<' :: '=' :: _ | '?' :: '<' :: '!' :: _ =>
      .error .lookAround
  | '?' :: 'P' :: '<' :: rest => named rest
  | '?' :: '<' :: rest => named rest
  | '?' :: rest =>
      let (switches, remaining) ← readSwitches true false [] rest
      match remaining with
      | ')' :: after =>
          if switches.isEmpty then .error .nothingToRepeat
          else .ok (.switches switches, after)
      | _ => .ok (.group switches, remaining.drop 1)
  | rest => .ok (.group [], rest)

/-- Whether a question mark follows, which makes a repetition lazy. -/
def readGreed : List Char → Bool × List Char
  | '?' :: rest => (false, rest)
  | rest => (true, rest)

/-- Read on in a group with groups around it. -/
def readItems : Nat → (names : List String) → (verbose : Bool) → GroupLevel → List Outer →
    List Char → Except PatternError Expr
  | 0, _, _, _, _, _ => .error .unclosedGroup
  | fuel + 1, names, verbose, level, outer, chars => do
      let repeated (least : Nat) (most : Option Nat) (rest : List Char) :
          Except PatternError Expr := do
        let (greedy, rest) := readGreed rest
        let level ← level.repeatLast least most greedy
        readItems fuel names verbose level outer rest
      match skip verbose chars with
      | [] => if outer.isEmpty then .ok level.body else .error .unclosedGroup
      | '(' :: rest =>
          let (opening, rest) ← readOpening verbose ('(' :: rest)
          let enter (names : List String) (switches : Switches) : Except PatternError Expr :=
            readItems fuel names ((switches.find? .verbose).getD verbose) {}
              (⟨level, switches, verbose⟩ :: outer) rest
          match opening with
          | .switches switches =>
              readItems fuel names ((switches.find? .verbose).getD verbose)
                (level.push (.switches switches)) outer rest
          | .group switches => enter names switches
          | .named name =>
              if names.contains name then .error .repeatedGroupName
              else enter (name :: names) []
      | ')' :: rest =>
          match outer with
          | [] => .error .unopenedGroup
          | around :: others =>
              readItems fuel names around.verbose
                (around.level.push (.group around.switches level.body)) others rest
      | '|' :: rest => readItems fuel names verbose level.split outer rest
      | '[' :: rest =>
          let (item, rest) ← readClass verbose ('[' :: rest)
          readItems fuel names verbose (level.push item) outer rest
      | '?' :: rest => repeated 0 (some 1) rest
      | '*' :: rest => repeated 0 none rest
      | '+' :: rest => repeated 1 none rest
      | '{' :: rest =>
          let ((least, most), rest) ← readCounts verbose ('{' :: rest)
          repeated least most rest
      | '\\' :: rest =>
          let (item, rest) ← readEscape verbose rest
          readItems fuel names verbose (level.push item) outer rest
      | '.' :: rest => readItems fuel names verbose (level.push .point) outer rest
      | '^' :: rest =>
          readItems fuel names verbose (level.push (.assertion .lineStart)) outer rest
      | '$' :: rest =>
          readItems fuel names verbose (level.push (.assertion .lineEnd)) outer rest
      | char :: rest => readItems fuel names verbose (level.push (.letter { char })) outer rest

/-- How deep a pattern may be nested. -/
def depthLimit : Nat := 250

/-- Read the source of a pattern. -/
def read (source : String) : Except PatternError Expr := do
  let chars := source.toList
  let expr ← readItems (chars.length + 1) [] false {} [] chars
  if depthLimit < expr.depth then .error .nestedTooDeep else .ok expr

end TextScanner.Pattern
