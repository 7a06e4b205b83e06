import TextScanner.Pattern.CharClass

/-!
# Patterns without flags

The flags of a pattern are resolved when its meaning is taken.  What remains
are classes, places, sequences, choices in order of preference, and one kind of
loop: the body at least once, and again as long as that is preferred or
needed.  Every other repetition is put together from these.
-/

namespace TextScanner.Pattern

/-- What a place between two characters can be asked. -/
inductive Place where
  | textStart | textEnd
  | lineStart | lineEnd
  /-- The start or end of a line that ends with a carriage return, a line feed,
  or both. -/
  | returnLineStart | returnLineEnd
  | wordBoundary | notWordBoundary | wordStart | wordEnd | wordStartHalf | wordEndHalf
  deriving DecidableEq, Repr

/-- A pattern whose flags are resolved. -/
inductive Node where
  | empty
  | one (members : CharClass)
  /-- A place; word places ask which characters belong to words. -/
  | place (kind : Place) (isWord : Char → Bool)
  | sequence (first second : Node)
  /-- The first branch if possible, else the second. -/
  | choice (first second : Node)
  /-- The body once or more; a greedy loop prefers another round. -/
  | loop (greedy : Bool) (body : Node)

namespace Place

/-- Whether a place has a kind, by the characters before and after it. -/
def holds (kind : Place) (isWord : Char → Bool) (before after : Option Char) : Bool :=
  let wordBefore := before.any isWord
  let wordAfter := after.any isWord
  match kind with
  | textStart => before.isNone
  | textEnd => after.isNone
  | lineStart => before.isNone || before == some '\n'
  | lineEnd => after.isNone || after == some '\n'
  | returnLineStart =>
      before.isNone || before == some '\n' || (before == some '\r' && after != some '\n')
  | returnLineEnd =>
      after.isNone || after == some '\r' || (after == some '\n' && before != some '\r')
  | wordBoundary => wordBefore != wordAfter
  | notWordBoundary => wordBefore == wordAfter
  | wordStart => !wordBefore && wordAfter
  | wordEnd => wordBefore && !wordAfter
  | wordStartHalf => !wordBefore
  | wordEndHalf => !wordAfter

end Place

namespace Node

/-- Whether a node matches nothing but empty texts. -/
def isEmptyOnly : Node → Bool
  | empty => true
  | one _ => false
  | place _ _ => true
  | sequence first second => first.isEmptyOnly && second.isEmptyOnly
  | choice first second => first.isEmptyOnly && second.isEmptyOnly
  | loop _ body => body.isEmptyOnly

/-- The node or nothing; greedy prefers the node. -/
def optional (greedy : Bool) (node : Node) : Node :=
  if greedy then choice node empty else choice empty node

/-- The node a number of times, then another. -/
def times (node : Node) (count : Nat) (last : Node) : Node :=
  count.repeat (sequence node) last

/-- The node up to a number of times. -/
def upTo (greedy : Bool) (node : Node) (count : Nat) : Node :=
  count.repeat (fun more => optional greedy (sequence node more)) empty

/-- The node at least `least` times, and at most `most` times if that is
given.  A node that matches only empty texts is repeated once at most, as
further rounds make no difference. -/
def repeated (greedy : Bool) (least : Nat) (most : Option Nat) (node : Node) : Node :=
  let bound (count : Nat) : Nat := if node.isEmptyOnly then min count 1 else count
  match most with
  | none =>
      match bound least with
      | 0 => optional greedy (loop greedy node)
      | count + 1 => times node count (loop greedy node)
  | some most =>
      times node (bound least) (upTo greedy node (bound most - bound least))

end Node

end TextScanner.Pattern
