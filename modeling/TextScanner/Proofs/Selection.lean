import TextScanner.Proofs.Change

/-!
# What stands under the names of modes

Modes are selected by name and looked up when they are needed.  Output types that
are built in cannot be replaced, so under their names stand the formats they were
made with, whatever was registered since (`Scanner.Reachable.keepsBuiltins`).

A name is selected only if it is registered, and no mode is ever removed: the tables
of modes only grow (`Scanner.Change.contains_outputTypes`,
`Scanner.Change.contains_comparisonModes`).  A full reset selects names that are built
in.  So the selected names are registered at all times
(`Scanner.Change.selectsRegistered`), and what a look-up would fall back to does not
matter.
-/

namespace TextScanner

/-- Whether a format can be registered under a name: those of the built-in output
types are fixed. -/
def OutputFormat.MayStandUnder (format : OutputFormat) (name : String) : Prop :=
  OutputFormat.isBuiltin name = false ∨ (name, format) ∈ OutputFormat.builtins

/-- The built-in formats present the same value, that of a match. -/
theorem OutputFormat.toValue?_compose {σ : Type} {name : String} {format : OutputFormat}
    (builtin : (name, format) ∈ OutputFormat.builtins) (parent : σ) (outcome : Outcome) :
    (format.compose parent outcome).toValue? = outcome.reported := by
  simp only [builtins, List.mem_cons, Prod.mk.injEq, List.not_mem_nil, or_false] at builtin
  rcases builtin with ⟨_, rfl⟩ | ⟨_, rfl⟩ | ⟨_, rfl⟩ <;> rfl

namespace Scanner

variable {scanner changed : Scanner}

/-- How a scanner presents outcomes if an output type is active. -/
def formatUnder (scanner : Scanner) (name : String) : OutputFormat :=
  (scanner.outputTypes.find? name).getD .normal

/-- What a scanner hands out, seen from outside, is what the active format makes of
the outcome and of all that the scanner shows. -/
theorem map_present (scanner : Scanner) (outcome : Outcome) :
    (scanner.present outcome).map view =
      (scanner.formatUnder scanner.outputType).compose scanner.view outcome := by
  change ((scanner.formatUnder scanner.outputType).compose scanner outcome).map view = _
  cases scanner.formatUnder scanner.outputType <;> rfl

/-- Advancing over a match leaves the output types alone. -/
theorem outputTypes_commit (scanner : Scanner) (outcome : Outcome) :
    (scanner.commit outcome).value.outputTypes = scanner.outputTypes ∧
      (scanner.commit outcome).value.outputType = scanner.outputType := by
  rw [commit]
  cases outcome.consumed <;> exact ⟨rfl, rfl⟩

/-- So it does not change how outcomes are presented. -/
theorem formatUnder_commit (scanner : Scanner) (outcome : Outcome) (name : String) :
    (scanner.commit outcome).value.formatUnder name = scanner.formatUnder name ∧
      (scanner.commit outcome).value.outputType = scanner.outputType := by
  rcases scanner.outputTypes_commit outcome with ⟨sameTypes, sameName⟩
  refine ⟨?_, sameName⟩
  rw [formatUnder, sameTypes, formatUnder]

/-- A check answers with the outcome of its options as the active format presents it. -/
theorem check_answer (call : Call) (scanner : Scanner) (options : List ScanOption) :
    ((Command.check options).run call scanner).value.1 =
      (scanner.checkOutcome call options).value.map fun outcome =>
        (scanner.formatUnder scanner.outputType).compose scanner.view outcome := by
  have checks : (Command.check options).check? = some (.firstOf options) := rfl
  have answered := Option.some.inj (Command.answer_of_check? checks call scanner)
  rw [← answered, Search.outcome]
  cases (scanner.checkOutcome call options).value with
  | error error => rfl
  | ok outcome =>
      simp only [Except.map]
      rw [map_present]

/-- A scan answers with the outcome of its options as the active format presents it,
together with the scanner behind the match. -/
theorem scan_answer (call : Call) (scanner : Scanner) (options : List ScanOption) :
    ((Command.scan options).run call scanner).value.1 =
      (scanner.checkOutcome call options).value.map fun outcome =>
        (scanner.formatUnder scanner.outputType).compose
          (scanner.commit outcome).value.view outcome := by
  have scans : (Command.scan options).scan? = some (.firstOf options) := rfl
  have told := Command.answer_of_scan? scans call scanner
  have answered := Option.some.inj told
  rw [← answered, Search.outcome]
  cases (scanner.checkOutcome call options).value with
  | error error => rfl
  | ok outcome =>
      rcases scanner.formatUnder_commit outcome scanner.outputType with ⟨sameFormat, sameName⟩
      simp only [Except.map]
      rw [map_present, sameName, sameFormat]

/-- The built-in output types are as they were made. -/
def KeepsBuiltins (scanner : Scanner) : Prop :=
  ∀ name, (scanner.formatUnder name).MayStandUnder name

theorem new_keepsBuiltins (text : String) : (new text).KeepsBuiltins := by
  intro name
  cases builtin : OutputFormat.isBuiltin name with
  | false => exact Or.inl builtin
  | true =>
      right
      have known : OutputFormat.normalName = name ∨ "full" = name ∨ "advanced" = name := by
        simpa [OutputFormat.isBuiltin, OutputFormat.builtins] using builtin
      rcases known with rfl | rfl | rfl
      · exact .head _
      · exact .tail _ (.head _)
      · exact .tail _ (.tail _ (.head _))

/-- Under each built-in name stands the format that was made for it. -/
theorem KeepsBuiltins.formatUnder_eq (keeps : scanner.KeepsBuiltins)
    {entry : String × OutputFormat} (member : entry ∈ OutputFormat.builtins) :
    scanner.formatUnder entry.1 = entry.2 := by
  have stands := keeps entry.1
  simp only [OutputFormat.builtins, List.mem_cons, List.not_mem_nil, or_false] at member
  rcases member with rfl | rfl | rfl
  all_goals
    rcases stands with free | stands
    · exact absurd free (by decide)
    · simpa [OutputFormat.builtins, OutputFormat.normalName] using stands

theorem KeepsBuiltins.formatUnder_normalName (keeps : scanner.KeepsBuiltins) :
    scanner.formatUnder OutputFormat.normalName = .normal :=
  keeps.formatUnder_eq (.head _)

theorem Change.keepsBuiltins (change : Change scanner changed)
    (keeps : scanner.KeepsBuiltins) : changed.KeepsBuiltins := by
  intro wanted
  cases change with
  | @addOutputType name render free =>
      by_cases same : name = wanted
      · subst same
        exact Or.inl free
      · change (((scanner.outputTypes.insert name _).find? wanted).getD _).MayStandUnder wanted
        rw [Table.find?_insert_of_ne _ _ same]
        exact keeps wanted
  | reset full => cases full <;> exact keeps wanted
  | _ => exact keeps wanted

theorem Reachable.keepsBuiltins {text : String} (reachable : Reachable text scanner) :
    scanner.KeepsBuiltins :=
  reachable.invariant (new_keepsBuiltins text) Change.keepsBuiltins

/-! ## Selected modes are registered -/

/-- The selected modes are registered, and so are those that are built in. -/
structure SelectsRegistered (scanner : Scanner) : Prop where
  outputType : scanner.outputTypes.contains scanner.outputType = true
  comparisonMode : scanner.comparisonModes.contains scanner.comparisonMode = true
  builtinOutputTypes : ∀ entry ∈ OutputFormat.builtins,
    scanner.outputTypes.contains entry.1 = true
  builtinModes : ∀ entry ∈ ComparisonMode.builtins,
    scanner.comparisonModes.contains entry.1 = true

theorem new_selectsRegistered (text : String) : (new text).SelectsRegistered where
  outputType := rfl
  comparisonMode := rfl
  builtinOutputTypes := by
    intro entry member
    simp only [OutputFormat.builtins, List.mem_cons, List.not_mem_nil, or_false] at member
    rcases member with rfl | rfl | rfl <;> rfl
  builtinModes := by
    intro entry member
    simp only [ComparisonMode.builtins, List.mem_cons, List.not_mem_nil, or_false] at member
    rcases member with rfl | rfl <;> rfl

/-- Output types are never removed. -/
theorem Change.contains_outputTypes (change : Change scanner changed) {name : String}
    (known : scanner.outputTypes.contains name = true) :
    changed.outputTypes.contains name = true := by
  cases change with
  | addOutputType => exact Table.contains_insert_of_contains known _ _
  | reset full => cases full <;> exact known
  | _ => exact known

/-- Nor are comparison modes. -/
theorem Change.contains_comparisonModes (change : Change scanner changed) {name : String}
    (known : scanner.comparisonModes.contains name = true) :
    changed.comparisonModes.contains name = true := by
  cases change with
  | addComparisonMode => exact Table.contains_insert_of_contains known _ _
  | reset full => cases full <;> exact known
  | _ => exact known

/-- The active output type changes to one that is registered, or to the normal one. -/
theorem Change.outputType_cases (change : Change scanner changed) :
    changed.outputType = scanner.outputType ∨
      scanner.outputTypes.contains changed.outputType = true ∨
      changed.outputType = OutputFormat.normalName := by
  cases change with
  | setOutputType known => exact Or.inr (Or.inl known)
  | reset full =>
      cases full with
      | false => exact Or.inl rfl
      | true => exact Or.inr (Or.inr rfl)
  | _ => exact Or.inl rfl

/-- So does the active comparison mode. -/
theorem Change.comparisonMode_cases (change : Change scanner changed) :
    changed.comparisonMode = scanner.comparisonMode ∨
      scanner.comparisonModes.contains changed.comparisonMode = true ∨
      changed.comparisonMode = ComparisonMode.normalName := by
  cases change with
  | setComparisonMode known => exact Or.inr (Or.inl known)
  | reset full =>
      cases full with
      | false => exact Or.inl rfl
      | true => exact Or.inr (Or.inr rfl)
  | _ => exact Or.inl rfl

theorem Change.selectsRegistered (change : Change scanner changed)
    (selects : scanner.SelectsRegistered) : changed.SelectsRegistered where
  outputType := by
    apply change.contains_outputTypes
    rcases change.outputType_cases with same | known | normal
    · rw [same]
      exact selects.outputType
    · exact known
    · rw [normal]
      exact selects.builtinOutputTypes _ (.head _)
  comparisonMode := by
    apply change.contains_comparisonModes
    rcases change.comparisonMode_cases with same | known | normal
    · rw [same]
      exact selects.comparisonMode
    · exact known
    · rw [normal]
      exact selects.builtinModes _ (.head _)
  builtinOutputTypes := by
    intro entry member
    exact change.contains_outputTypes (selects.builtinOutputTypes entry member)
  builtinModes := by
    intro entry member
    exact change.contains_comparisonModes (selects.builtinModes entry member)

theorem Reachable.selectsRegistered {text : String} (reachable : Reachable text scanner) :
    scanner.SelectsRegistered :=
  reachable.invariant (new_selectsRegistered text) Change.selectsRegistered

/-- The built-in output types, if they are registered and kept, are found as they were
made. -/
theorem SelectsRegistered.find?_builtin (selects : scanner.SelectsRegistered)
    (keeps : scanner.KeepsBuiltins) {entry : String × OutputFormat}
    (member : entry ∈ OutputFormat.builtins) :
    scanner.outputTypes.find? entry.1 = some entry.2 := by
  rcases Option.isSome_iff_exists.mp (selects.builtinOutputTypes entry member) with
    ⟨format, found⟩
  have stands := keeps.formatUnder_eq member
  rw [formatUnder, found, Option.getD_some] at stands
  rw [found, stands]

/-- The look-ups of modes succeed: the selected ones are found, and decide how outcomes
are presented and how literals and patterns are compared; the built-in ones are found,
the output types as they were made. -/
structure FindsModes (scanner : Scanner) : Prop where
  outputType : ∃ format, scanner.outputTypes.find? scanner.outputType = some format ∧
    ∀ outcome, scanner.present outcome = format.compose scanner outcome
  comparisonMode : ∃ mode, scanner.comparisonModes.find? scanner.comparisonMode = some mode ∧
    scanner.activeMode = mode
  builtinOutputTypes : ∀ entry ∈ OutputFormat.builtins,
    scanner.outputTypes.find? entry.1 = some entry.2
  builtinModes : ∀ entry ∈ ComparisonMode.builtins,
    scanner.comparisonModes.contains entry.1 = true

theorem Reachable.findsModes {text : String} (reachable : Reachable text scanner) :
    scanner.FindsModes := by
  have selects := reachable.selectsRegistered
  refine ⟨?_, ?_, ?_, selects.builtinModes⟩
  · rcases Option.isSome_iff_exists.mp selects.outputType with ⟨format, found⟩
    refine ⟨format, found, ?_⟩
    intro outcome
    rw [present, found]
    rfl
  · rcases Option.isSome_iff_exists.mp selects.comparisonMode with ⟨mode, found⟩
    refine ⟨mode, found, ?_⟩
    rw [activeMode, found]
    rfl
  · intro entry member
    exact selects.find?_builtin reachable.keepsBuiltins member

/-- In every reachable scanner, after a full reset of it, and in every scanner that turns
up while a script runs on it, be it a copy, the selected modes are registered and found,
and so are the built-in ones. -/
theorem selections_always_resolve {text : String} {scanner : Scanner}
    (reachable : Reachable text scanner) :
    scanner.FindsModes ∧ (scanner.reset true).value.FindsModes ∧
    (scanner.reset true).value.outputType = OutputFormat.normalName ∧
    (scanner.reset true).value.comparisonMode = ComparisonMode.normalName ∧
    ∀ ⦃depth script place⦄, Meets depth script scanner place → place.FindsModes := by
  refine ⟨reachable.findsModes, ?_, rfl, rfl, ?_⟩
  · have rewound : Reachable text (scanner.reset true).value := reachable.perform 0 (.reset true)
    exact rewound.findsModes
  · intro depth script place met
    exact (reachable.meets met).findsModes

/-- A macro that resets the scanner fully, a mode in the place of the normal one, and a
type that selects an output type on its copy. -/
theorem selections_always_resolve_of_replaced_mode :
    let never : ComparisonMode := { literal := fun _ _ => none, pattern := fun _ _ => none }
    let tidy : Routine := fun _ => .perform (.reset true) fun _ => .finish (.ok none)
    let loud : Routine := fun _ => .perform (.setOutputType "length") fun _ => .finish (.ok none)
    let scanner := (new "añb").performAll (callWithin 2)
      [⟨_, .addOutputType "full" fun _ => .null⟩, ⟨_, .addOutputType "length" fun _ => .null⟩,
        ⟨_, .setOutputType "length"⟩, ⟨_, .addComparisonMode "normal" never⟩,
        ⟨_, .addMacro "tidy" tidy⟩, ⟨_, .runMacro "tidy" []⟩, ⟨_, .addType "loud" loud⟩]
    let place := (scanner.setOutputType "length").value.toOption.getD scanner
    scanner.outputType = "normal" ∧ scanner.comparisonMode = "normal" ∧
      scanner.outputTypes.find? "full" = some .full ∧
      scanner.activeMode.literal "a" "añb" = none ∧
      place.outputType = "length" ∧
      ∃ format, place.outputTypes.find? "length" = some format ∧
        ∀ outcome, place.present outcome = format.compose place outcome := by
  intro never tidy loud scanner place
  have reachable : Reachable "añb" scanner := Reachable.new.performAll 2 _
  rcases selections_always_resolve reachable with ⟨finds, _, _, _, within⟩
  have registered : scanner.types.find? "loud" = some loud := rfl
  have selected : Meets 1 (loud []) scanner place := .later (.start 1 _ _)
  have met : Meets 2 (.perform (.checkType "loud" []) fun _ => .finish (.ok none)) scanner place :=
    .routine (Or.inl registered) [] selected
  refine ⟨rfl, rfl, ?_, rfl, rfl, (within met).outputType⟩
  exact finds.builtinOutputTypes ("full", .full) (.tail _ (.head _))

end Scanner

end TextScanner
