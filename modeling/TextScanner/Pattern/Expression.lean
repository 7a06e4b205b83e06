/-!
# Expressions of patterns

The form of a pattern as it is written: which flags are given where, which
classes are named, how often an expression repeats.  What an expression means
depends on the flags in force and is settled by `TextScanner.Pattern.Meaning`.
-/

namespace TextScanner.Pattern

/-- A switch of the pattern language. -/
inductive Flag where
  /-- Letters match without regard to case. -/
  | ignoreCase
  /-- Line anchors match at every line. -/
  | multiLine
  /-- The point matches line feeds. -/
  | pointMatchesAll
  /-- Greedy and lazy repetition change places. -/
  | swapGreed
  /-- Classes are classes of characters and not of bytes. -/
  | unicode
  /-- Lines end with a carriage return, a line feed, or both. -/
  | carriageReturn
  /-- Blanks and comments in the pattern are left out. -/
  | verbose
  deriving DecidableEq, Repr

/-- Flags in the order given, each switched on or off. -/
abbrev Switches := List (Flag × Bool)

/-- A single character, and whether it was written as a byte, with two
hexadecimal digits. -/
structure Letter where
  char : Char
  byte : Bool := false
  deriving DecidableEq, Repr

/-- The classes with a letter of their own. -/
inductive ShortClass where
  | digit | blank | word
  deriving DecidableEq, Repr

/-- The named classes of ASCII characters. -/
inductive AsciiClass where
  | alnum | alpha | ascii | blank | cntrl | digit | graph | lower | print | punct
  | space | upper | word | xdigit
  deriving DecidableEq, Repr

/-- How two classes are combined. -/
inductive ClassOperator where
  | intersection | difference | symmetricDifference
  deriving DecidableEq, Repr

/-- The inside of a bracketed class. -/
inductive ClassExpr where
  | empty
  | letter (letter : Letter)
  | range (low high : Letter)
  | ascii (name : AsciiClass) (negated : Bool)
  | short (name : ShortClass) (negated : Bool)
  /-- A class by its property name, and perhaps the value of the property. -/
  | property (name : String) (value : Option String) (negated : Bool)
  | bracketed (negated : Bool) (inside : ClassExpr)
  | union (items : List ClassExpr)
  | combined (operator : ClassOperator) (left right : ClassExpr)

/-- The kinds of places a pattern can ask for. -/
inductive Assertion where
  | lineStart | lineEnd | textStart | textEnd
  | wordBoundary | notWordBoundary
  | wordStart | wordEnd | wordStartHalf | wordEndHalf
  deriving DecidableEq, Repr

/-- A pattern as written. -/
inductive Expr where
  | empty
  /-- Switches for the rest of the enclosing group. -/
  | switches (switches : Switches)
  | letter (letter : Letter)
  | point
  | assertion (kind : Assertion)
  | short (name : ShortClass) (negated : Bool)
  | property (name : String) (value : Option String) (negated : Bool)
  | bracketed (negated : Bool) (inside : ClassExpr)
  /-- At least `least` times, and at most `most` times if given. -/
  | repeated (least : Nat) (most : Option Nat) (greedy : Bool) (body : Expr)
  | group (switches : Switches) (body : Expr)
  | sequence (items : List Expr)
  | choice (branches : List Expr)

/-- The switch a list gives for a flag, if it mentions it. -/
def Switches.find? (switches : Switches) (flag : Flag) : Option Bool :=
  List.lookup flag switches

/-- One class of several items. -/
def ClassExpr.ofItems : List ClassExpr → ClassExpr
  | [] => .empty
  | [item] => item
  | items => .union items

/-- One expression after another. -/
def Expr.ofItems : List Expr → Expr
  | [] => .empty
  | [item] => item
  | items => .sequence items

/-! ## Nesting -/

mutual

/-- How deep brackets, unions and operators of a class are nested. -/
def ClassExpr.depth : ClassExpr → Nat
  | .bracketed _ inside => inside.depth + 1
  | .union items => depthOfClasses items + 1
  | .combined _ left right => max left.depth right.depth + 1
  | _ => 0

def depthOfClasses : List ClassExpr → Nat
  | [] => 0
  | item :: rest => max item.depth (depthOfClasses rest)

end

mutual

/-- How deep groups, repetitions, sequences, choices and classes are
nested. -/
def Expr.depth : Expr → Nat
  | .bracketed _ inside => inside.depth + 1
  | .repeated _ _ _ body => body.depth + 1
  | .group _ body => body.depth + 1
  | .sequence items => depthOfExprs items + 1
  | .choice branches => depthOfExprs branches + 1
  | _ => 0

def depthOfExprs : List Expr → Nat
  | [] => 0
  | item :: rest => max item.depth (depthOfExprs rest)

end

end TextScanner.Pattern
