import TextScanner.ScanOption

/-!
# Outcomes

What came of trying options at the cursor.  A failure carries nothing.  A match
carries the kind of the option, the option itself, the text it consumed and the
value it reports: that text, or the value of an enum.
-/

namespace TextScanner

/-- The kind of the option that matched. -/
inductive MatchKind where
  | literal
  | pattern
  | enumeration
  | type (name : String)
  deriving DecidableEq, Repr

/-- The result of trying options. -/
structure Outcome where
  matched : Bool
  kind : Option MatchKind
  /-- The option that matched; of an enum, its key. -/
  key : Option ScanOption
  /-- The value reported to the caller. -/
  result : Option Value
  /-- The text consumed from the input. -/
  text : Option String

namespace MatchKind

def display : MatchKind → String
  | literal => "string"
  | pattern => "regex"
  | enumeration => "enum"
  | type name => "type:" ++ name

def inspect : MatchKind → String
  | literal => "String"
  | pattern => "Regex"
  | enumeration => "Enum"
  | type name => "Type(" ++ inspectText name ++ ")"

end MatchKind

namespace Outcome

/-- No option matched. -/
def failure : Outcome where
  matched := false
  kind := none
  key := none
  result := none
  text := none

/-- A match that reports a value. -/
def substituted (kind : MatchKind) (key : ScanOption) (text : String) (result : Value) :
    Outcome where
  matched := true
  kind := some kind
  key := some key
  result := some result
  text := some text

/-- A match that reports the text it consumed. -/
def success (kind : MatchKind) (key : ScanOption) (text : String) : Outcome :=
  substituted kind key text (.string text)

/-- The text that the cursor advances over: that of a match. -/
def consumed (outcome : Outcome) : Option String :=
  if outcome.matched then outcome.text else none

/-- The value reported by a match. -/
def reported (outcome : Outcome) : Option Value :=
  if outcome.matched then outcome.result else none

def equal (left right : Outcome) : Bool :=
  left.matched == right.matched && left.kind == right.kind && left.key == right.key &&
    left.result == right.result && left.text == right.text

instance : BEq Outcome := ⟨equal⟩

def inspect (outcome : Outcome) : String :=
  inspectRecord "MatchOutcome" [
    ("matched", inspectBool outcome.matched),
    ("kind", inspectOption (outcome.kind.map MatchKind.inspect)),
    ("key", inspectOption (outcome.key.map ScanOption.inspect)),
    ("result", inspectOption (outcome.result.map Value.inspect)),
    ("text_matched", inspectOption (outcome.text.map inspectText))]

end Outcome

end TextScanner
