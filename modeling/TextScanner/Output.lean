import TextScanner.Outcome

/-!
# Presentation of outcomes

The active output type decides what a caller of `check` and `scan` is handed:
the reported value, the whole outcome, the outcome together with the scanner,
or whatever a registered function makes of the outcome.
-/

namespace TextScanner

/-- An entry of the table of output types. -/
inductive OutputFormat where
  | normal
  | full
  | advanced
  | custom (render : Outcome → Value)

/-- An outcome together with the scanner it came from. -/
structure AdvancedOutput (σ : Type) where
  parent : σ
  outcome : Outcome

/-- A presented outcome. -/
inductive ScanOutput (σ : Type) where
  /-- The reported value of a match. -/
  | normal (value : Option Value)
  | full (outcome : Outcome)
  | advanced (output : AdvancedOutput σ)
  /-- What a registered function made of the outcome. -/
  | custom (value : Value)

namespace OutputFormat

/-- The name of the output type that presents reported values. -/
def normalName : String := "normal"

/-- The output types every scanner starts with, which cannot be replaced. -/
def builtins : List (String × OutputFormat) :=
  [(normalName, normal), ("full", full), ("advanced", advanced)]

/-- Whether a name belongs to an output type that cannot be replaced. -/
def isBuiltin (name : String) : Bool :=
  builtins.any fun entry => entry.1 == name

/-- Present an outcome. -/
def compose {σ : Type} (format : OutputFormat) (parent : σ) (outcome : Outcome) :
    ScanOutput σ :=
  match format with
  | normal => .normal outcome.reported
  | full => .full outcome
  | advanced => .advanced { parent, outcome }
  | custom render => .custom (render outcome)

end OutputFormat

/-- The scanner on a match. -/
def AdvancedOutput.then? {σ : Type} (output : AdvancedOutput σ) : Option σ :=
  if output.outcome.matched then some output.parent else none

namespace ScanOutput

variable {σ : Type}

/-- The value for the caller.  Registered output types always give one. -/
def toValue? : ScanOutput σ → Option Value
  | normal value => value
  | full outcome => outcome.reported
  | advanced output => output.outcome.reported
  | custom value => some value

/-- The outcome, where the output type keeps it. -/
def toOutcome? : ScanOutput σ → Option Outcome
  | full outcome => some outcome
  | advanced output => some output.outcome
  | normal _ | custom _ => none

/-- The outcome with its scanner, where the output type keeps both. -/
def toAdvanced? : ScanOutput σ → Option (AdvancedOutput σ)
  | advanced output => some output
  | _ => none

/-- The same presentation for what a function makes of the scanner. -/
def map {τ : Type} (change : σ → τ) : ScanOutput σ → ScanOutput τ
  | normal value => .normal value
  | full outcome => .full outcome
  | advanced output => .advanced { parent := change output.parent, outcome := output.outcome }
  | custom value => .custom value

end ScanOutput

end TextScanner
