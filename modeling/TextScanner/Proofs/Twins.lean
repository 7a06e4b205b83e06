import TextScanner.Proofs.Frame
import TextScanner.Proofs.Indifference

/-!
# The output type only changes presentation

Two scanners that differ in the active output type alone find the same if none of
their routines depends on it (`Scanner.Twins.outcome_eq`), and stay such twins
whatever is done to both (`Command.answersAlike`).  As routines perform commands and
call each other, this is an induction on scripts (`Script.Indifferent.runsAlike`) and
on how deep calls go (`callWithin_runsAlike`).

Without the condition on routines it fails, already for a type that takes the
value of a scan for the text that it matched
(`Scanner.output_type_decides_match`).
-/

namespace TextScanner

variable {first second : String}

/-- Two scanners that differ at most in the active output type, the first of two
output types here and the second there, and whose routines are indifferent to
them. -/
structure Scanner.Twins (first second : String) (scanner other : Scanner) : Prop where
  other_eq : other = { scanner with outputType := other.outputType }
  names : scanner.outputType = other.outputType ∨
    scanner.outputType = first ∧ other.outputType = second
  types : ∀ ⦃name routine⦄, scanner.types.find? name = some routine →
    IndifferentRoutine first second routine
  macros : ∀ ⦃name routine⦄, scanner.macros.find? name = some routine →
    IndifferentRoutine first second routine
  keepsBuiltins : scanner.KeepsBuiltins

open Scanner (Twins)

/-- A command that is answered alike on twins and leaves them twins. -/
def Command.AnswersAlike (first second : String) (call : Call) {kind : Kind}
    (command : Command kind) : Prop :=
  ∀ ⦃scanner other : Scanner⦄, Twins first second scanner other →
    Answer.Alike first second (command.run call scanner).value.1
        (command.run call other).value.1 ∧
      Twins first second (command.run call scanner).value.2 (command.run call other).value.2

/-- A script that finishes in the same way on twins and leaves them twins. -/
def Script.RunsAlike (first second : String) (call : Call) (script : Script) : Prop :=
  ∀ ⦃scanner other : Scanner⦄, Twins first second scanner other →
    (script.run call scanner).value.1 = (script.run call other).value.1 ∧
      Twins first second (script.run call scanner).value.2 (script.run call other).value.2

/-- A way to run routines that, given an indifferent one, finishes in the same way
on twins and leaves them twins. -/
def Call.RunsAlike (first second : String) (call : Call) : Prop :=
  ∀ ⦃routine : Routine⦄, IndifferentRoutine first second routine →
    ∀ (args : List Value) ⦃scanner other : Scanner⦄, Twins first second scanner other →
      (call routine args scanner).value.1 = (call routine args other).value.1 ∧
        Twins first second (call routine args scanner).value.2
          (call routine args other).value.2

/-! ## Twins find the same -/

namespace Scanner.Twins

variable {scanner other : Scanner} {call : Call}

theorem resolveType_eq (twins : Twins first second scanner other)
    (calls : Call.RunsAlike first second call) (reference : TypeRef) :
    (scanner.resolveType call reference).value = (other.resolveType call reference).value := by
  have sameTypes : other.types = scanner.types := by rw [twins.other_eq]
  rw [value_resolveType, value_resolveType, sameTypes]
  cases found : scanner.types.find? reference.name with
  | none => rfl
  | some routine =>
      simp only
      rw [(calls (twins.types found) reference.args twins).1]

theorem resolveKey_eq (twins : Twins first second scanner other)
    (calls : Call.RunsAlike first second call) (key : EnumKey) :
    (scanner.resolveKey call key).value = (other.resolveKey call key).value := by
  cases key with
  | literal candidate =>
      rw [twins.other_eq]
      rfl
  | pattern candidate =>
      rw [twins.other_eq]
      rfl
  | type reference => exact twins.resolveType_eq calls reference

/-- Twins find the same. -/
theorem outcome_eq (twins : Twins first second scanner other)
    (calls : Call.RunsAlike first second call) (search : Search) :
    search.outcome call scanner = search.outcome call other := by
  apply search.outcome_congr
  intro key _
  exact twins.resolveKey_eq calls key

theorem checkOutcome_eq (twins : Twins first second scanner other)
    (calls : Call.RunsAlike first second call) (options : List ScanOption) :
    (scanner.checkOutcome call options).value = (other.checkOutcome call options).value :=
  twins.outcome_eq calls (.firstOf options)

/-! ## Twins stay twins -/

theorem exists_name (twins : Twins first second scanner other) :
    ∃ name, other = { scanner with outputType := name } :=
  ⟨_, twins.other_eq⟩

/-- Twins with the same active output type are the same. -/
theorem eq_of_names_eq (twins : Twins first second scanner other)
    (same : scanner.outputType = other.outputType) : other = scanner := by
  rw [twins.other_eq, ← same]

theorem view_alike (twins : Twins first second scanner other) :
    @Answer.Alike first second .view scanner.view other.view := by
  rcases twins.names with same | ⟨under, otherUnder⟩
  · rw [twins.eq_of_names_eq same]
    exact .refl _
  · rw [twins.other_eq, otherUnder]
    exact .view under

theorem present_alike (twins : Twins first second scanner other) {outcome : Outcome}
    (wellFormed : outcome.WellFormed) :
    @Answer.Alike first second .attemptOutput (.ok ((scanner.present outcome).map view))
      (.ok ((other.present outcome).map view)) := by
  rcases twins.names with same | ⟨under, otherUnder⟩
  · rw [twins.eq_of_names_eq same]
    exact .refl _
  · rw [map_present, map_present, twins.other_eq, under, otherUnder]
    exact .output under wellFormed (twins.keepsBuiltins first) (twins.keepsBuiltins second)

/-- What is done to both of two twins, and leaves the active output type of each,
leaves them twins if the routines registered afterwards are indifferent. -/
theorem of_changed {changed : Scanner} (twins : Twins first second scanner other)
    (types : ∀ ⦃known routine⦄, changed.types.find? known = some routine →
      IndifferentRoutine first second routine)
    (macros : ∀ ⦃known routine⦄, changed.macros.find? known = some routine →
      IndifferentRoutine first second routine)
    (keepsBuiltins : changed.KeepsBuiltins)
    (outputType_eq : changed.outputType = scanner.outputType) :
    Twins first second changed { changed with outputType := other.outputType } where
  other_eq := rfl
  names := by
    rw [outputType_eq]
    exact twins.names
  types := types
  macros := macros
  keepsBuiltins := keepsBuiltins

/-- Where the same output type is active, a scanner is its own twin. -/
theorem refl_of_indifferent
    (types : ∀ ⦃known routine⦄, scanner.types.find? known = some routine →
      IndifferentRoutine first second routine)
    (macros : ∀ ⦃known routine⦄, scanner.macros.find? known = some routine →
      IndifferentRoutine first second routine)
    (keepsBuiltins : scanner.KeepsBuiltins) : Twins first second scanner scanner where
  other_eq := rfl
  names := Or.inl rfl
  types := types
  macros := macros
  keepsBuiltins := keepsBuiltins

/-- Twins stay twins when both advance behind the same match. -/
theorem past (twins : Twins first second scanner other)
    (result : Except ScannerError Outcome) :
    Twins first second (scanner.past result) (other.past result) := by
  obtain ⟨name, rfl⟩ := twins.exists_name
  cases result with
  | error error => exact twins
  | ok outcome =>
      simp only [past_ok, commit]
      cases outcome.consumed with
      | none => exact twins
      | some text => exact twins.of_changed twins.types twins.macros twins.keepsBuiltins rfl

end Scanner.Twins

namespace Command

variable {kind : Kind} {command : Command kind} {call : Call}

/-! ## Commands on twins -/

/-- Twins are shown the same outcome by a check, and stay as they are. -/
theorem alike_of_check? (calls : Call.RunsAlike first second call) {search : Search}
    (checks : command.check? = some search) : command.AnswersAlike first second call := by
  intro scanner other twins
  constructor
  · apply answers_related_of_check? .refl checks (twins.outcome_eq calls search)
    intro outcome searched
    exact twins.present_alike (search.wellFormed_of_outcome searched)
  · rw [run_of_check? checks, run_of_check? checks]
    exact twins

/-- Twins are shown the same outcome by a scan, and advance over the same text. -/
theorem alike_of_scan? (calls : Call.RunsAlike first second call) {search : Search}
    (scans : command.scan? = some search) : command.AnswersAlike first second call := by
  intro scanner other twins
  have same := twins.outcome_eq calls search
  constructor
  · apply answers_related_of_scan? .refl scans same
    intro outcome searched
    exact (twins.past (.ok outcome)).present_alike (search.wellFormed_of_outcome searched)
  · rw [run_of_scan? scans, run_of_scan? scans, same]
    exact twins.past _

/-- Registries, modes and data of twins are changed in the same way. -/
theorem alike_of_configures (configures : command.configures = true)
    (carried : ∀ script, command.Carries script → script.Indifferent first second) :
    command.AnswersAlike first second call := by
  intro scanner other twins
  obtain ⟨name, rfl⟩ := twins.exists_name
  cases command
  case addType registered body =>
      refine ⟨.refl _, twins.of_changed ?_ twins.macros twins.keepsBuiltins rfl⟩
      intro known routine found
      rcases Table.find?_insert_cases found with rfl | earlier
      · exact fun args => carried _ ⟨args, rfl⟩
      · exact twins.types earlier
  case addMacro registered body =>
      refine ⟨.refl _, twins.of_changed twins.types ?_ twins.keepsBuiltins rfl⟩
      intro known routine found
      rcases Table.find?_insert_cases found with rfl | earlier
      · exact fun args => carried _ ⟨args, rfl⟩
      · exact twins.macros earlier
  case removeType removed =>
      simp only [run, settle, Logged.value_map, Scanner.removeType]
      cases scanner.types.contains removed with
      | false => exact ⟨.refl _, twins⟩
      | true =>
          refine ⟨.refl _, twins.of_changed ?_ twins.macros twins.keepsBuiltins rfl⟩
          intro known routine found
          exact twins.types (Table.find?_of_find?_erase found)
  case removeMacro removed =>
      simp only [run, settle, Logged.value_map, Scanner.removeMacro]
      cases scanner.macros.contains removed with
      | false => exact ⟨.refl _, twins⟩
      | true =>
          refine ⟨.refl _, twins.of_changed twins.types ?_ twins.keepsBuiltins rfl⟩
          intro known routine found
          exact twins.macros (Table.find?_of_find?_erase found)
  case addOutputType registered render =>
      simp only [run, done, Logged.value_map, Scanner.addOutputType]
      cases free : OutputFormat.isBuiltin registered with
      | true => exact ⟨.refl _, twins⟩
      | false =>
          have keeps := (Scanner.Change.addOutputType render free).keepsBuiltins
            twins.keepsBuiltins
          exact ⟨.refl _, twins.of_changed twins.types twins.macros keeps rfl⟩
  case setOutputType selected =>
      simp only [run, settle, Logged.value_map, Scanner.setOutputType]
      cases scanner.outputTypes.contains selected with
      | false => exact ⟨.refl _, twins⟩
      | true =>
          exact ⟨.refl _, .refl_of_indifferent twins.types twins.macros twins.keepsBuiltins⟩
  case setComparisonMode selected =>
      simp only [run, settle, Logged.value_map, Scanner.setComparisonMode]
      cases scanner.comparisonModes.contains selected with
      | false => exact ⟨.refl _, twins⟩
      | true => exact ⟨.refl _, twins.of_changed twins.types twins.macros twins.keepsBuiltins rfl⟩
  case addComparisonMode | putData | dropData =>
      exact ⟨.refl _, twins.of_changed twins.types twins.macros twins.keepsBuiltins rfl⟩
  all_goals simp [Command.configures] at configures

/-- Performed on twins, a command is answered alike and leaves them twins. -/
theorem answersAlike (calls : Call.RunsAlike first second call) (command : Command kind)
    (carried : ∀ script, command.Carries script →
      script.Indifferent first second ∧ script.RunsAlike first second call) :
    command.AnswersAlike first second call := by
  intro scanner other twins
  obtain ⟨name, rfl⟩ := twins.exists_name
  cases command
  case view => exact ⟨twins.view_alike, twins⟩
  case moveBy | moveTo | advanceOver | undo | savePointer =>
      exact ⟨.refl _, twins.of_changed twins.types twins.macros twins.keepsBuiltins rfl⟩
  case reset full =>
      refine ⟨.refl _, ?_⟩
      cases full with
      | false => exact twins.of_changed twins.types twins.macros twins.keepsBuiltins rfl
      | true =>
          exact .refl_of_indifferent (fun _ _ found => nomatch found)
            (fun _ _ found => nomatch found) twins.keepsBuiltins
  case loadPointer wanted =>
      simp only [run, settle, Logged.value_map, Scanner.loadPointer]
      cases scanner.pointers.find? wanted with
      | none => exact ⟨.refl _, twins⟩
      | some saved =>
          exact ⟨.refl _, twins.of_changed twins.types twins.macros twins.keepsBuiltins rfl⟩
  case runMacro wanted args =>
      simp only [run, Scanner.runMacro]
      cases found : scanner.macros.find? wanted with
      | none => exact ⟨.refl _, twins⟩
      | some routine =>
          rcases calls (twins.macros found) args twins with ⟨sameResult, stillTwins⟩
          exact ⟨.of_eq (congrArg (Except.map fun _ => ()) sameResult), stillTwins⟩
  case onDuplicate body => exact ⟨.of_eq ((carried body rfl).2 twins).1, twins⟩
  case checkOutcome | check | checkLiteral | checkPattern | checkEnum | checkType =>
      exact alike_of_check? calls rfl twins
  case scanOutcome | scan | scanLiteral | scanPattern | scanEnum | scanType =>
      exact alike_of_scan? calls rfl twins
  all_goals
    exact alike_of_configures rfl (fun script carries => (carried script carries).1) twins

end Command

/-- An indifferent script finishes in the same way on twins. -/
theorem Script.Indifferent.runsAlike {call : Call} (calls : Call.RunsAlike first second call)
    {script : Script} (indifferent : script.Indifferent first second) :
    script.RunsAlike first second call := by
  induction indifferent with
  | finish result =>
      intro scanner other twins
      rw [Script.run, Script.run]
      exact ⟨rfl, twins⟩
  | @perform kind command next carried same later ihCarried ihLater =>
      intro scanner other twins
      rcases command.answersAlike calls
        (fun script carries => ⟨carried script carries, ihCarried script carries⟩) twins with
        ⟨alike, stillTwins⟩
      rw [Script.run, Script.run]
      simp only [Logged.value_bind]
      rw [same _ _ alike]
      exact ihLater _ stillTwins

/-- Indifferent routines finish in the same way on twins, however deep they call
each other. -/
theorem callWithin_runsAlike (first second : String) (depth : Nat) :
    Call.RunsAlike first second (callWithin depth) := by
  induction depth with
  | zero =>
      intro routine indifferent args scanner other twins
      exact ⟨rfl, twins⟩
  | succ depth ih =>
      intro routine indifferent args scanner other twins
      exact (indifferent args).runsAlike ih twins

/-! ## Twins under two output types -/

namespace Scanner

/-- The same scanner with another active output type. -/
def presentingAs (scanner : Scanner) (name : String) : Scanner :=
  { scanner with outputType := name }

theorem value_commit_presentingAs (scanner : Scanner) (name : String) (outcome : Outcome) :
    ((scanner.presentingAs name).commit outcome).value =
      (scanner.commit outcome).value.presentingAs name := by
  simp only [commit]
  cases outcome.consumed <;> rfl

/-- Two scanners that differ in the active output type find the same, or fail with
the same error, if their routines do not tell the two output types apart.  Scans
match on both or on neither and leave them different in the active output type
alone. -/
theorem output_type_only_presents {text : String} {scanner : Scanner}
    (reachable : Reachable text scanner) (name : String)
    (types : ∀ ⦃known routine⦄, scanner.types.find? known = some routine →
      IndifferentRoutine scanner.outputType name routine)
    (macros : ∀ ⦃known routine⦄, scanner.macros.find? known = some routine →
      IndifferentRoutine scanner.outputType name routine)
    (depth : Nat) (options : List ScanOption) :
    let call := callWithin depth
    let other := scanner.presentingAs name
    (other.checkOutcome call options).value = (scanner.checkOutcome call options).value ∧
    (other.scanOutcome call options).value =
      (scanner.scanOutcome call options).value.map (fun (outcome, changed) =>
        (outcome, changed.presentingAs name)) ∧
    (scanner.scan call options).value =
      (scanner.scanOutcome call options).value.map (fun (outcome, changed) =>
        (changed.present outcome, changed)) ∧
    (other.scan call options).value =
      (scanner.scanOutcome call options).value.map (fun (outcome, changed) =>
        ((changed.presentingAs name).present outcome, changed.presentingAs name)) := by
  intro call other
  have twins : Twins scanner.outputType name scanner other :=
    { other_eq := rfl
      names := Or.inr ⟨rfl, rfl⟩
      types := types
      macros := macros
      keepsBuiltins := reachable.keepsBuiltins }
  have sameOutcome := twins.checkOutcome_eq (callWithin_runsAlike _ _ depth) options
  rw [value_scanOutcome, value_scanOutcome, value_scan, value_scan, ← sameOutcome]
  refine ⟨rfl, ?_, ?_, ?_⟩
  all_goals cases (scanner.checkOutcome call options).value with
    | error error => rfl
    | ok outcome => simp only [Except.map, other, value_commit_presentingAs]

/-- A type that asks for the value of a scan, under two built-in output types. -/
theorem output_type_only_presents_of_text :
    let scanner := (new "ab").performAll (callWithin 2)
      [⟨_, .addType "word" (textOf [.literal "ab"])⟩]
    let options : List ScanOption := [.literal "x", .type ⟨"word", []⟩]
    ((scanner.presentingAs "full").checkOutcome (callWithin 2) options).value =
        (scanner.checkOutcome (callWithin 2) options).value ∧
      (scanner.checkOutcome (callWithin 2) options).value.toOption.map Outcome.text =
        some (some "ab") := by
  intro scanner options
  have reachable : Reachable "ab" scanner := Reachable.new.performAll 2 _
  have types : ∀ ⦃known routine⦄, scanner.types.find? known = some routine →
      IndifferentRoutine scanner.outputType "full" routine := by
    intro known routine found
    change (Table.empty.insert "word" (textOf [.literal "ab"])).find? known = _ at found
    rcases Table.find?_insert_cases found with rfl | absent
    · exact indifferentRoutine_textOf (by decide) (by decide) _
    · simp at absent
  have macros : ∀ ⦃known routine⦄, scanner.macros.find? known = some routine →
      IndifferentRoutine scanner.outputType "full" routine :=
    fun _ _ found => nomatch found
  refine ⟨(output_type_only_presents reachable "full" types macros 2 options).1, ?_⟩
  decide +kernel

/-- The same type tells a registered output type from the normal one: it matches
under one and not under the other. -/
theorem output_type_decides_match :
    let scanner := (new "ab").performAll (callWithin 2)
      [⟨_, .addType "word" (textOf [.literal "ab"])⟩,
        ⟨_, .addOutputType "matched" fun outcome => .boolean outcome.matched⟩]
    let other := scanner.performAll (callWithin 2) [⟨_, .setOutputType "matched"⟩]
    let options : List ScanOption := [.type ⟨"word", []⟩]
    other = scanner.presentingAs "matched" ∧
      scanner.outputTypes.contains scanner.outputType = true ∧
      scanner.outputTypes.contains other.outputType = true ∧
      (scanner.checkOutcome (callWithin 2) options).value.toOption.map Outcome.text =
        some (some "ab") ∧
      (other.checkOutcome (callWithin 2) options).value.toOption.map Outcome.text =
        some none := by
  intro scanner other options
  have registered : scanner.outputTypes.contains "matched" = true := by decide +kernel
  refine ⟨?_, ?_, ?_, ?_, ?_⟩
  · simp only [other, performAll, Command.run, Command.value_settle, setOutputType,
      registered]
    rfl
  all_goals decide +kernel

end Scanner

end TextScanner
