import TextScanner.Pattern.Meaning
import TextScanner.Pattern.Program
import TextScanner.Pattern.Reader
import TextScanner.Text.Inspected

/-!
# Patterns

A pattern is a regular expression that is matched at the beginning of a text.
It keeps its source, which is what it is displayed as and compared by, beside
two programs for it: one as written, and one that ignores case unless the
source says otherwise.

What a pattern finds is a beginning of the text, by construction.
-/

namespace TextScanner

/-- A regular expression with its two programs. -/
structure Pattern where
  source : String
  /-- The program of the source as written. -/
  exact : Pattern.Program
  /-- The program of the source with case ignored from the start. -/
  folded : Pattern.Program

namespace Pattern

/-- The program of an expression with some flags in force from the start. -/
def program (mode : Mode) (expr : Expr) : Except PatternError Program := do
  let (node, _) ← meaning mode expr
  .ok (Program.ofNode node)

/-- Compile a source. -/
def compile (source : String) : Except PatternError Pattern := do
  let expr ← read source
  let exact ← program {} expr
  let folded ← program { ignoreCase := true } expr
  .ok { source, exact, folded }

instance : BEq Pattern := ⟨fun left right => left.source == right.source⟩

/-- Whether a pattern is written as nothing, or as a group of nothing.  Such a
pattern is not tried. -/
def isEmpty (pattern : Pattern) : Bool :=
  pattern.source == "" || pattern.source == "(?:)"

/-- The beginning of a text that a program matches. -/
def Program.find? (program : Program) (text : String) : Option String :=
  let chars := text.toList
  (program.matchLength? chars).map fun length => String.ofList (chars.take length)

/-- The beginning of a text that a pattern matches, possibly empty. -/
def findPrefix? (pattern : Pattern) (text : String) : Option String :=
  pattern.exact.find? text

/-- The same, without regard to case. -/
def findPrefixFolded? (pattern : Pattern) (text : String) : Option String :=
  pattern.folded.find? text

/-- The source between slashes. -/
def display (pattern : Pattern) : String :=
  "/" ++ pattern.source ++ "/"

/-- The inspected text of a pattern. -/
def inspect (pattern : Pattern) : String :=
  "Pattern(" ++ inspectText pattern.source ++ ")"

/-- What is found is a beginning of the text. -/
theorem Program.find?_isPrefix {program : Program} {text found : String}
    (matched : program.find? text = some found) : found.toList <+: text.toList := by
  unfold Program.find? at matched
  obtain ⟨length, _, same⟩ := Option.map_eq_some_iff.1 matched
  rw [← same, String.toList_ofList]
  exact List.take_prefix _ _

end Pattern

end TextScanner
