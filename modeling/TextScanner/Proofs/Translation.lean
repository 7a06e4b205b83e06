import TextScanner.Proofs.Commit
import TextScanner.Proofs.Frame
import TextScanner.Proofs.Selection

/-!
# Matching depends on the rest of the text only

Two scanners whose rests are the same, and which have the same modes, find the same
literals, patterns and enums over these: what comparators are given is the rest.  If
one of them has a text with a lead in front of the text of the other, and stands as
much further on, both stay so whatever they scan and however far they move forward,
past the end or not (`Command.keepsLead`, then by induction on the run
`Scanner.Leads.performAll`).

Types may be registered but not tried, as their routines see the whole scanner.
Movements backward are left out, since the lead does not stop them.
-/

namespace TextScanner

/-! ## Searches that try no types -/

/-- Whether a key is a type. -/
def EnumKey.isType : EnumKey → Bool
  | .literal _ | .pattern _ => false
  | .type _ => true

/-- Whether a search may try a type. -/
def Search.triesTypes (search : Search) : Bool :=
  search.keys.any EnumKey.isType

/-- A command that checks or scans without trying types, moves forward, or concerns
registries, modes or data. -/
inductive Command.Advances : {kind : Kind} → Command kind → Prop
  | check {kind : Kind} {command : Command kind} {search : Search}
      (checks : command.check? = some search) (typeless : search.triesTypes = false) :
      Advances command
  | scan {kind : Kind} {command : Command kind} {search : Search}
      (scans : command.scan? = some search) (typeless : search.triesTypes = false) :
      Advances command
  | moveBy {distance : Int} (forward : 0 ≤ distance) : Advances (.moveBy distance)
  | configures {kind : Kind} {command : Command kind}
      (configures : command.configures = true) : Advances command

/-- Answers that tell the same: equal ones, and outputs that differ at most in the
scanner that comes with them. -/
inductive Answer.TellsSame : {kind : Kind} → Answer kind → Answer kind → Prop
  | refl {kind : Kind} (answer : Answer kind) : TellsSame answer answer
  | output {first second : ScanOutput View}
      (same : first.map (fun _ => ()) = second.map (fun _ => ())) :
      @TellsSame .attemptOutput (.ok first) (.ok second)

namespace Scanner

/-! ## A lead in front of the text -/

/-- The scanner in the text of another one, with the cursors and the pointers of that. -/
def placedLike (scanner place : Scanner) : Scanner :=
  { scanner with
    text := place.text
    cursor := place.cursor
    undoCursor := place.undoCursor
    pointers := place.pointers }

@[simp]
theorem types_placedLike (scanner place : Scanner) :
    (scanner.placedLike place).types = scanner.types :=
  rfl

@[simp]
theorem macros_placedLike (scanner place : Scanner) :
    (scanner.placedLike place).macros = scanner.macros :=
  rfl

@[simp]
theorem outputTypes_placedLike (scanner place : Scanner) :
    (scanner.placedLike place).outputTypes = scanner.outputTypes :=
  rfl

@[simp]
theorem comparisonModes_placedLike (scanner place : Scanner) :
    (scanner.placedLike place).comparisonModes = scanner.comparisonModes :=
  rfl

/-- The other scanner has the same registries, modes and data and the same text with a
lead in front, and stands as much further on as the lead is long. -/
structure Leads (lead : String) (scanner other : Scanner) : Prop where
  placed : scanner.WellPlaced
  otherPlaced : other.WellPlaced
  text : other.text = lead ++ scanner.text
  pos : other.cursor.pos = scanner.cursor.pos + lead.length
  lastMatch : other.cursor.lastMatch = scanner.cursor.lastMatch
  other_eq : other = scanner.placedLike other

theorem SamePlaces.wellPlaced {scanner changed : Scanner} (same : scanner.SamePlaces changed)
    (placed : scanner.WellPlaced) : changed.WellPlaced :=
  placed.of_eq same.text same.cursor same.undoCursor same.pointers

variable {lead : String} {scanner other : Scanner} {call : Call}

namespace Leads

theorem chars_eq (leads : Leads lead scanner other) :
    other.text.toList = lead.toList ++ scanner.text.toList := by
  rw [leads.text, String.toList_append]

theorem length_eq (leads : Leads lead scanner other) :
    other.text.length = lead.length + scanner.text.length := by
  rw [leads.text, String.length_append]

theorem unscannedText_eq (leads : Leads lead scanner other) :
    other.unscannedText = scanner.unscannedText := by
  rw [← String.toList_inj, leads.otherPlaced.unscannedText_eq, leads.placed.unscannedText_eq,
    leads.chars_eq, leads.pos, ← String.length_toList, Nat.add_comm, List.drop_append]
  simp

/-- The byte offset is as much larger as the lead has bytes. -/
theorem offset_eq (leads : Leads lead scanner other) :
    other.cursor.offset = scanner.cursor.offset + lead.utf8ByteSize := by
  have leadBytes : byteLength lead.toList = lead.utf8ByteSize := by
    rw [byteLength_eq_utf8ByteSize, String.ofList_toList]
  rw [leads.otherPlaced.cursor.offset_eq, leads.placed.cursor.offset_eq, leads.chars_eq,
    leads.pos, ← String.length_toList, Nat.add_comm, List.take_length_add_append,
    byteLength_append, leadBytes, Nat.add_comm]

theorem isAtEnd_eq (leads : Leads lead scanner other) : other.isAtEnd = scanner.isAtEnd := by
  rw [Bool.eq_iff_iff, leads.otherPlaced.isAtEnd_iff, leads.placed.isAtEnd_iff,
    leads.unscannedText_eq]

/-! ## Both find the same -/

theorem activeMode_eq (leads : Leads lead scanner other) :
    scanner.activeMode = other.activeMode := by
  rw [leads.other_eq]
  rfl

theorem outcome_eq (leads : Leads lead scanner other) {search : Search}
    (typeless : search.triesTypes = false) :
    search.outcome call scanner = search.outcome call other := by
  apply search.outcome_congr
  intro key member
  have untyped : key.isType = false := by
    have all := List.any_eq_false.mp typeless key member
    simpa using all
  cases key with
  | literal candidate =>
      simp only [resolveKey, resolveLiteral, leads.activeMode_eq, leads.unscannedText_eq]
  | pattern candidate =>
      simp only [resolveKey, resolvePattern, leads.activeMode_eq, leads.unscannedText_eq]
  | type reference => simp [EnumKey.isType] at untyped

theorem present_tellsSame (leads : Leads lead scanner other) (outcome : Outcome) :
    @Answer.TellsSame .attemptOutput (.ok ((scanner.present outcome).map view))
      (.ok ((other.present outcome).map view)) := by
  apply Answer.TellsSame.output
  rw [map_present, map_present, leads.other_eq]
  change (((scanner.formatUnder scanner.outputType).compose _ outcome).map _ : ScanOutput Unit) =
    ((scanner.formatUnder scanner.outputType).compose _ outcome).map _
  cases scanner.formatUnder scanner.outputType <;> rfl

/-! ## Both stay so -/

theorem afterMatch (leads : Leads lead scanner other) (matched : String) :
    Leads lead (scanner.afterMatch matched) (other.afterMatch matched) where
  placed := leads.placed.afterMatch matched
  otherPlaced := leads.otherPlaced.afterMatch matched
  text := leads.text
  pos := by
    -- a match may be longer than the rest, and then the end cuts both movements equally short
    change min (other.cursor.pos + matched.length) other.text.length =
      min (scanner.cursor.pos + matched.length) scanner.text.length + lead.length
    rw [leads.pos, leads.length_eq]
    omega
  lastMatch := rfl
  other_eq := congrArg (fun place => place.afterMatch matched) leads.other_eq

theorem past (leads : Leads lead scanner other) (result : Except ScannerError Outcome) :
    Leads lead (scanner.past result) (other.past result) := by
  cases result with
  | error error => exact leads
  | ok outcome =>
      rw [past_ok, past_ok]
      cases consumed : outcome.consumed with
      | none =>
          rw [value_commit_of_none consumed, value_commit_of_none consumed]
          exact leads
      | some text =>
          rw [value_commit leads.placed consumed, value_commit leads.otherPlaced consumed]
          exact leads.afterMatch text

theorem moveBy (leads : Leads lead scanner other) {distance : Int} (forward : 0 ≤ distance) :
    Leads lead (scanner.moveBy distance) (other.moveBy distance) where
  placed := (Change.moveBy distance).wellPlaced leads.placed
  otherPlaced := (Change.moveBy distance).wellPlaced leads.otherPlaced
  text := leads.text
  pos := by
    rw [moveBy_eq leads.placed, moveBy_eq leads.otherPlaced]
    change min (other.cursor.pos + distance).toNat other.text.toList.length =
      min (scanner.cursor.pos + distance).toNat scanner.text.toList.length + lead.length
    rw [leads.pos, String.length_toList, String.length_toList, leads.length_eq]
    omega
  lastMatch := by
    rw [moveBy_eq leads.placed, moveBy_eq leads.otherPlaced]
    exact leads.lastMatch
  other_eq := congrArg (fun place => place.moveBy distance) leads.other_eq

end Leads

end Scanner

open Scanner (Leads)

/-! ## Commands with a lead in front -/

/-- A command that is answered the same whether or not there is a lead in front, and
that keeps the lead. -/
def Command.KeepsLead (lead : String) (call : Call) {kind : Kind} (command : Command kind) :
    Prop :=
  ∀ ⦃scanner other : Scanner⦄, Leads lead scanner other →
    Answer.TellsSame (command.run call scanner).value.1 (command.run call other).value.1 ∧
      Leads lead (command.run call scanner).value.2 (command.run call other).value.2

namespace Command

variable {kind : Kind} {command : Command kind} {search : Search}

theorem keepsLead_of_check? (checks : command.check? = some search)
    (typeless : search.triesTypes = false) (lead : String) (call : Call) :
    command.KeepsLead lead call := by
  intro scanner other leads
  constructor
  · apply answers_related_of_check? .refl checks (leads.outcome_eq typeless)
    intro outcome searched
    exact leads.present_tellsSame outcome
  · rw [run_of_check? checks, run_of_check? checks]
    exact leads

theorem keepsLead_of_scan? (scans : command.scan? = some search)
    (typeless : search.triesTypes = false) (lead : String) (call : Call) :
    command.KeepsLead lead call := by
  intro scanner other leads
  have same : search.outcome call scanner = search.outcome call other :=
    leads.outcome_eq typeless
  constructor
  · apply answers_related_of_scan? .refl scans same
    intro outcome searched
    exact (leads.past (.ok outcome)).present_tellsSame outcome
  · rw [run_of_scan? scans, run_of_scan? scans, same]
    exact leads.past _

/-- An attempt that comes to the same at another place settles to the same there. -/
theorem settle_placedLike {scanner place : Scanner} {attempt other : Attempt Scanner}
    (same : other.value = attempt.value.map fun changed => changed.placedLike place) :
    (settle (scanner.placedLike place) other).value =
      Prod.map id (fun changed => changed.placedLike place) (settle scanner attempt).value := by
  simp only [settle, Logged.value_map, same]
  cases attempt.value <;> rfl

/-- Registries, modes and data are changed in the same way wherever the cursor is, and in
whichever text. -/
theorem run_placedLike_of_configures (configures : command.configures = true) (call : Call)
    (scanner place : Scanner) :
    (command.run call (scanner.placedLike place)).value =
      Prod.map id (fun changed => changed.placedLike place) (command.run call scanner).value := by
  cases command
  case addType | addMacro | addComparisonMode | putData | dropData => rfl
  case addOutputType name render =>
      simp only [run, done, Logged.value_map, Scanner.addOutputType]
      split <;> rfl
  case removeType name =>
      apply settle_placedLike
      cases known : scanner.types.contains name <;>
        simp only [Scanner.removeType, Scanner.types_placedLike, known] <;> rfl
  case removeMacro name =>
      apply settle_placedLike
      cases known : scanner.macros.contains name <;>
        simp only [Scanner.removeMacro, Scanner.macros_placedLike, known] <;> rfl
  case setOutputType name =>
      apply settle_placedLike
      cases known : scanner.outputTypes.contains name <;>
        simp only [Scanner.setOutputType, Scanner.outputTypes_placedLike, known] <;> rfl
  case setComparisonMode name =>
      apply settle_placedLike
      cases known : scanner.comparisonModes.contains name <;>
        simp only [Scanner.setComparisonMode, Scanner.comparisonModes_placedLike, known] <;> rfl
  all_goals simp [Command.configures] at configures

theorem keepsLead_of_configures (configures : command.configures = true) (lead : String)
    (call : Call) : command.KeepsLead lead call := by
  intro scanner other leads
  have moved := run_placedLike_of_configures configures call scanner other
  rw [← leads.other_eq] at moved
  have same := configures_samePlaces configures call scanner
  have otherSame := configures_samePlaces configures call other
  constructor
  · rw [moved]
    exact .refl _
  · exact
      { placed := same.wellPlaced leads.placed
        otherPlaced := otherSame.wellPlaced leads.otherPlaced
        text := by rw [otherSame.text, same.text, leads.text]
        pos := by rw [otherSame.cursor, same.cursor, leads.pos]
        lastMatch := by rw [otherSame.cursor, same.cursor, leads.lastMatch]
        other_eq := by
          rw [moved]
          rfl }

/-- A command that advances is answered the same whether or not there is a lead in front,
and keeps the lead. -/
theorem Advances.keepsLead (advances : command.Advances) (lead : String) (call : Call) :
    command.KeepsLead lead call := by
  cases advances with
  | check checks typeless => exact keepsLead_of_check? checks typeless lead call
  | scan scans typeless => exact keepsLead_of_scan? scans typeless lead call
  | moveBy forward =>
      intro scanner other leads
      exact ⟨.refl _, leads.moveBy forward⟩
  | configures configures => exact keepsLead_of_configures configures lead call

end Command

namespace Scanner

variable {lead : String} {scanner other : Scanner} {call : Call}

/-- A run that advances keeps the lead. -/
theorem Leads.performAll (leads : Leads lead scanner other) {commands : List AnyCommand}
    (advances : ∀ command ∈ commands, command.2.Advances) (call : Call) :
    Leads lead (scanner.performAll call commands) (other.performAll call commands) := by
  induction commands generalizing scanner other with
  | nil => exact leads
  | cons command rest ih =>
      rcases List.forall_mem_cons.mp advances with ⟨advancesFirst, advancesRest⟩
      exact ih (advancesFirst.keepsLead lead call leads).2 advancesRest

/-- A new scanner that is moved behind the beginning of its text has that beginning as a
lead. -/
theorem leads_new (lead rest : String) :
    Leads lead (new rest) ((new (lead ++ rest)).moveTo lead.length) := by
  have placed := new_wellPlaced (lead ++ rest)
  have moved := moveTo_eq placed lead.length
  exact
    { placed := new_wellPlaced rest
      otherPlaced := (Change.moveTo lead.length).wellPlaced placed
      text := rfl
      pos := by
        rw [moved]
        change min lead.length (lead ++ rest).toList.length = 0 + lead.length
        rw [String.length_toList, String.length_append]
        omega
      lastMatch := by
        rw [moved]
        rfl
      other_eq := rfl }

/-- What a new scanner for a text finds, and where it gets to, does not change if there
is a lead in front of the text and the cursor is put behind that lead first.  After any
run of checks and scans that try no types, of movements forward and of changes of
registries, modes and data, its positions differ by the length of the lead and the rests
are the same, and such a command is answered the same. -/
theorem matching_depends_on_rest (call : Call) (lead rest : String)
    {commands : List AnyCommand} (advances : ∀ command ∈ commands, command.2.Advances) :
    let scanner := (new rest).performAll call commands
    let other := ((new (lead ++ rest)).moveTo lead.length).performAll call commands
    other.cursor.pos = scanner.cursor.pos + lead.length ∧
    other.cursor.offset = scanner.cursor.offset + lead.utf8ByteSize ∧
    other.unscannedText = scanner.unscannedText ∧
    other.cursor.lastMatch = scanner.cursor.lastMatch ∧
    other.isAtEnd = scanner.isAtEnd ∧
    ∀ ⦃kind⦄ (next : Command kind), next.Advances →
      Answer.TellsSame (next.run call scanner).value.1 (next.run call other).value.1 := by
  intro scanner other
  have leads : Leads lead scanner other := (leads_new lead rest).performAll advances call
  refine ⟨leads.pos, leads.offset_eq, leads.unscannedText_eq, leads.lastMatch,
    leads.isAtEnd_eq, ?_⟩
  intro kind next advancesNext
  exact (advancesNext.keepsLead lead call leads).1

/-- Behind a lead of three characters and six bytes: a literal, a mode that finds more
than there is, and a movement beyond the end. -/
theorem matching_depends_on_rest_of_echo :
    let echo : ComparisonMode :=
      { literal := fun _ rest => some (rest ++ rest), pattern := fun _ _ => none }
    let commands : List AnyCommand :=
      [⟨_, .scanLiteral "ñ"⟩, ⟨_, .addComparisonMode "echo" echo⟩,
        ⟨_, .setComparisonMode "echo"⟩, ⟨_, .setOutputType "advanced"⟩,
        ⟨_, .scanOutcome [.enumeration (.literal "x") .null]⟩, ⟨_, .moveBy 7⟩]
    let lead := "añ€"
    let scanner := (new "ñb€").performAll (callWithin 1) commands
    let other :=
      ((new (lead ++ "ñb€")).moveTo lead.length).performAll (callWithin 1) commands
    let next := Command.check [.literal "x"]
    scanner.cursor = { pos := 3, lastPos := 3, lastMatch := some "b€b€", offset := 6 } ∧
      other.cursor.pos = 6 ∧ other.cursor.offset = 12 ∧
      other.cursor.lastMatch = some "b€b€" ∧ other.isAtEnd = true ∧
      Answer.TellsSame (next.run (callWithin 1) scanner).value.1
        (next.run (callWithin 1) other).value.1 := by
  intro echo commands lead scanner other next
  have advances : ∀ command ∈ commands, command.2.Advances := by
    intro command member
    simp only [commands, List.mem_cons, List.not_mem_nil, or_false] at member
    rcases member with rfl | rfl | rfl | rfl | rfl | rfl
    · exact .scan rfl rfl
    · exact .configures rfl
    · exact .configures rfl
    · exact .configures rfl
    · exact .scan rfl rfl
    · exact .moveBy (by decide)
  have last : scanner.cursor =
      { pos := 3, lastPos := 3, lastMatch := some "b€b€", offset := 6 } := by
    decide +kernel
  have leadLength : lead.length = 3 := by decide +kernel
  have leadBytes : lead.utf8ByteSize = 6 := by decide +kernel
  rcases matching_depends_on_rest (callWithin 1) lead "ñb€" advances with
    ⟨pos, offset, _, lastMatch, isAtEnd, answers⟩
  refine ⟨last, ?_, ?_, ?_, ?_, answers next (.check rfl rfl)⟩
  · rw [pos, last, leadLength]
  · rw [offset, last, leadBytes]
  · rw [lastMatch, last]
  · exact isAtEnd.trans (by decide +kernel)

end Scanner

end TextScanner
