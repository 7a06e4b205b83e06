import TextScanner.Proofs.Traceless
import TextScanner.Proofs.Unfolding

/-!
# Which routine stands under a name

Types and macros are registered in two tables of the same kind, which are written to
by registrations, removals and full resets.  What stands under a name is what was
written there last (`RoutineTable.find?_run`, then by induction on the run
`Scanner.read_performAll_eq_lastWrite`).

Only what is done to the scanner itself counts.  So a macro may replace or remove any
routine, even itself while it runs.  A type replaces and removes none: it works on a
copy, which begins with the tables that the scanner has when the type is tried.
-/

namespace TextScanner

namespace Command

theorem value_run_removeType (call : Call) (scanner : Scanner) (name : String) :
    ((removeType name).run call scanner).value =
      if scanner.types.contains name then
        (.ok (), { scanner with types := scanner.types.erase name })
      else (.error (.unknownType name), scanner) := by
  simp only [run, settle, Logged.value_map, Scanner.removeType]
  cases scanner.types.contains name <;> rfl

theorem value_run_removeMacro (call : Call) (scanner : Scanner) (name : String) :
    ((removeMacro name).run call scanner).value =
      if scanner.macros.contains name then
        (.ok (), { scanner with macros := scanner.macros.erase name })
      else (.error (.unknownMacro name), scanner) := by
  simp only [run, settle, Logged.value_map, Scanner.removeMacro]
  cases scanner.macros.contains name <;> rfl

/-- Whether a command neither registers, removes or forgets routines nor runs a macro. -/
def sparesRoutines : {kind : Kind} → Command kind → Bool
  | _, .addType _ _ | _, .removeType _ | _, .addMacro _ _ | _, .removeMacro _
  | _, .runMacro _ _ | _, .reset _ => false
  | _, _ => true

end Command

/-- The tables that routines are registered in. -/
inductive RoutineTable where
  | types
  | macros
  deriving DecidableEq, Repr

namespace RoutineTable

/-- The table in a scanner. -/
def of (table : RoutineTable) (scanner : Scanner) : Table Routine :=
  match table with
  | types => scanner.types
  | macros => scanner.macros

/-- The routine that a command registers under a name of a table. -/
def added? (name : String) : RoutineTable → {kind : Kind} → Command kind → Option Routine
  | types, _, .addType added body => if added = name then some body else none
  | macros, _, .addMacro added body => if added = name then some body else none
  | _, _, _ => none

/-- Whether a command takes the routine under a name out of a table, if there is one. -/
def clears (name : String) : RoutineTable → {kind : Kind} → Command kind → Bool
  | types, _, .removeType removed => removed = name
  | macros, _, .removeMacro removed => removed = name
  | _, _, .reset full => full
  | _, _, _ => false

/-- What is written under a name of a table: a routine that is registered, or nothing
in the place of one that is removed or forgotten.  A removal that fails writes nothing
at all. -/
def write? (table : RoutineTable) (name : String) (exchange : Exchange) :
    Option (Option Routine) :=
  match table.added? name exchange.command.2 with
  | some routine => some (some routine)
  | none =>
      if table.clears name exchange.command.2 ∧ Answer.error? exchange.answer = none then
        some none
      else none

/-- The routine that stands under a name after a history: what was written there last, or
what stood there before. -/
def entryAfter (table : RoutineTable) (name : String) (start : Scanner)
    (history : List Exchange) : Option Routine :=
  (history.filterMap (table.write? name)).getLast?.getD ((table.of start).find? name)

/-! ## One command -/

variable {kind : Kind} {command : Command kind}

theorem of_past (table : RoutineTable) (scanner : Scanner)
    (result : Except ScannerError Outcome) : table.of (scanner.past result) = table.of scanner := by
  cases result with
  | error error => rfl
  | ok outcome =>
      rw [Scanner.past_ok, Scanner.commit]
      cases outcome.consumed <;> cases table <;> rfl

/-- Whatever routines do to copies, commands that spare the tables leave them alone. -/
theorem of_run_of_spares (table : RoutineTable) (spares : command.sparesRoutines = true)
    (call : Call) (scanner : Scanner) :
    table.of (command.run call scanner).value.2 = table.of scanner := by
  cases command
  case addType | removeType | addMacro | removeMacro | runMacro | reset =>
      simp [Command.sparesRoutines] at spares
  case scanOutcome | scan | scanLiteral | scanPattern | scanEnum | scanType =>
      rw [Command.run_of_scan? rfl, of_past]
  case addOutputType | setOutputType | setComparisonMode | loadPointer =>
      simp only [Command.run, Command.done, Logged.value_map, Command.value_settle,
        Scanner.addOutputType, Scanner.setOutputType, Scanner.setComparisonMode,
        Scanner.loadPointer]
      split <;> cases table <;> rfl
  all_goals cases table <;> rfl

theorem write?_of_spares (table : RoutineTable) (name : String)
    (spares : command.sparesRoutines = true) (scanner : Scanner) (answer : Answer kind) :
    table.write? name ⟨scanner, ⟨kind, command⟩, answer⟩ = none := by
  cases table <;> cases command <;> first | rfl | simp [Command.sparesRoutines] at spares

/-- What stands under a name after a direct command is what it wrote there, if anything. -/
theorem find?_run (table : RoutineTable) (name : String) (direct : command.direct = true)
    (call : Call) (scanner : Scanner) :
    (table.of (command.run call scanner).value.2).find? name =
      (table.write? name ⟨scanner, ⟨kind, command⟩, (command.run call scanner).value.1⟩).getD
        ((table.of scanner).find? name) := by
  cases command
  case addType added body =>
      cases table with
      | macros => rfl
      | types =>
          simp only [write?, added?]
          change (scanner.types.insert added body).find? name = _
          rw [Table.find?_insert]
          split <;> rfl
  case addMacro added body =>
      cases table with
      | types => rfl
      | macros =>
          simp only [write?, added?]
          change (scanner.macros.insert added body).find? name = _
          rw [Table.find?_insert]
          split <;> rfl
  case removeType removed =>
      simp only [Command.value_run_removeType]
      cases known : scanner.types.contains removed with
      -- a removal that fails counts as no writing, and leaves the table
      | false => cases table <;> simp [write?, added?, Answer.error?, errorOf?]
      | true =>
          cases table with
          | macros => rfl
          | types =>
              change (scanner.types.erase removed).find? name = _
              rw [Table.find?_erase]
              by_cases same : removed = name <;>
                simp [write?, added?, clears, Answer.error?, errorOf?, same, of]
  case removeMacro removed =>
      simp only [Command.value_run_removeMacro]
      cases known : scanner.macros.contains removed with
      | false => cases table <;> simp [write?, added?, Answer.error?, errorOf?]
      | true =>
          cases table with
          | types => rfl
          | macros =>
              change (scanner.macros.erase removed).find? name = _
              rw [Table.find?_erase]
              by_cases same : removed = name <;>
                simp [write?, added?, clears, Answer.error?, errorOf?, same, of]
  case reset full => cases table <;> cases full <;> rfl
  case runMacro => simp [Command.direct] at direct
  all_goals rw [of_run_of_spares table rfl, write?_of_spares table name rfl, Option.getD_none]

end RoutineTable

namespace Scanner

/-! ## A run -/

/-- What happens to the scanner itself in a run: the direct commands that the run comes
down to, with the scanners that they met and the answers that they got. -/
def history (depth : Nat) (scanner : Scanner) (commands : List AnyCommand) : List Exchange :=
  scanner.exchanges (callWithin depth) (scanner.unfolded depth commands)

section LastWrite

variable {α : Type} (read : Scanner → α) (write? : Exchange → Option α)

/-- If each direct command leaves in a place what it writes there, if anything, then
there stands after several what was written last. -/
theorem read_performAll {call : Call}
    (step : ∀ {kind : Kind} {command : Command kind}, command.direct = true → ∀ scanner,
      read (command.run call scanner).value.2 =
        (write? ⟨scanner, ⟨kind, command⟩, (command.run call scanner).value.1⟩).getD
          (read scanner))
    {scanner : Scanner} {commands : List AnyCommand}
    (direct : ∀ command ∈ commands, command.2.direct = true) :
    read (scanner.performAll call commands) =
      ((scanner.exchanges call commands).filterMap write?).getLast?.getD (read scanner) := by
  induction commands generalizing scanner with
  | nil => rfl
  | cons command rest ih =>
      rcases List.forall_mem_cons.mp direct with ⟨directFirst, directRest⟩
      rw [performAll, ih directRest, exchanges, step directFirst, List.filterMap_cons]
      -- what the rest starts from is what this command wrote, or what was there before it
      cases write? _ with
      | none => rfl
      | some written => rw [List.getLast?_cons, Option.getD_some, Option.getD_some]

/-- After any run, there stands what was written last on the scanner itself. -/
theorem read_performAll_eq_lastWrite
    (step : ∀ {kind : Kind} {command : Command kind}, command.direct = true → ∀ call scanner,
      read (command.run call scanner).value.2 =
        (write? ⟨scanner, ⟨kind, command⟩, (command.run call scanner).value.1⟩).getD
          (read scanner))
    (depth : Nat) (scanner : Scanner) (commands : List AnyCommand) :
    read (scanner.performAll (callWithin depth) commands) =
      ((scanner.history depth commands).filterMap write?).getLast?.getD (read scanner) := by
  have leads := scanner.unfolded_leads depth commands
  rw [← leads.performAll_eq (callWithin depth)]
  exact read_performAll read write? (fun direct => step direct (callWithin depth)) leads.direct

end LastWrite

/-- What stands under a name after a run is what was last written there on the scanner
itself. -/
theorem find?_performAll_eq_entryAfter (table : RoutineTable) (name : String) (depth : Nat)
    (scanner : Scanner) (commands : List AnyCommand) :
    (table.of (scanner.performAll (callWithin depth) commands)).find? name =
      table.entryAfter name scanner (scanner.history depth commands) :=
  read_performAll_eq_lastWrite (fun scanner => (table.of scanner).find? name)
    (table.write? name) (fun direct => table.find?_run name direct) depth scanner commands

/-! ## Trying types -/

variable {call : Call} {scanner : Scanner}

/-- A type comes to a result wherever it is tried: as an option of a list, as the key of
an enum, and by the operations for types and enums. -/
structure TypeYields (call : Call) (scanner : Scanner) (reference : TypeRef)
    (returned : Except ScannerError (Option String)) : Prop where
  option : (scanner.resolve call (.type reference)).value =
    returned.map (typeOutcome reference)
  enumOption : ∀ value, (scanner.resolve call (.enumeration (.type reference) value)).value =
    returned.map fun found => enumOutcome (.type reference) value (typeOutcome reference found)
  checkType : ((Command.checkType reference.name reference.args).run call scanner).value.1 =
    returned
  scanType : ((Command.scanType reference.name reference.args).run call scanner).value.1 =
    returned
  checkEnum : ∀ value,
    ((Command.checkEnum (.type reference) value).run call scanner).value.1 =
      returned.map fun found => found.map fun _ => value
  scanEnum : ∀ value,
    ((Command.scanEnum (.type reference) value).run call scanner).value.1 =
      returned.map fun found => found.map fun _ => value

theorem typeYields_of_resolveType {reference : TypeRef}
    {returned : Except ScannerError (Option String)}
    (resolved : (scanner.resolveType call reference).value =
      returned.map (typeOutcome reference)) : scanner.TypeYields call reference returned := by
  have texts : (returned.map (typeOutcome reference)).map Outcome.text = returned := by
    rcases returned with error | found
    · rfl
    · cases found <;> rfl
  have enums (value : Value) :
      (scanner.resolveEnum call (.type reference) value).value =
        returned.map fun found =>
          enumOutcome (.type reference) value (typeOutcome reference found) := by
    rw [value_resolveEnum, resolveKey, resolved]
    cases returned <;> rfl
  have values (value : Value) :
      (scanner.resolveEnum call (.type reference) value).value.map Outcome.result =
        returned.map fun found => found.map fun _ => value := by
    rw [enums]
    rcases returned with error | found
    · rfl
    · cases found <;> rfl
  exact
    { option := by
        rw [Search.value_resolve]
        exact resolved
      enumOption := by
        intro value
        rw [Search.value_resolve]
        exact enums value
      checkType := by
        simp only [Command.run, Command.observe, Logged.value_map, checkType,
          Attempt.value_mapOk, resolved, texts]
      scanType := by rw [Command.scanType_answer, resolved, texts]
      checkEnum := values
      scanEnum := by
        intro value
        rw [Command.scanEnum_answer, values] }

/-- A registered type gives what its routine returns on a copy of the scanner. -/
theorem typeYields_of_known {name : String} {routine : Routine}
    (known : scanner.types.find? name = some routine) (call : Call) (args : List Value) :
    scanner.TypeYields call { name, args } (call routine args scanner).value.1 := by
  apply typeYields_of_resolveType
  rw [value_resolveType, known]

theorem typeYields_of_unknown {name : String} (unknown : scanner.types.find? name = none)
    (call : Call) (args : List Value) :
    scanner.TypeYields call { name, args } (.error (.unknownType name)) := by
  apply typeYields_of_resolveType
  rw [value_resolveType, unknown]
  rfl

/-- After any run, what a type or a macro of a name does is what the routine does that
was registered last under the name on the scanner itself, directly or by macros, if it
was not removed or forgotten there since: a type runs it on a copy of the scanner, with
the very tables of that, and a macro on the scanner.  Without one, and only then, the
name is unknown however routines are run.  Nothing that checks, scans and scripts do to
copies changes this, and a new scanner begins without any routines. -/
theorem lookups_follow_history (depth : Nat) (start : Scanner) (commands : List AnyCommand)
    (name : String) :
    let last := start.performAll (callWithin depth) commands
    let history := start.history depth commands
    let typeEntry := RoutineTable.types.entryAfter name start history
    let macroEntry := RoutineTable.macros.entryAfter name start history
    (∀ routine, typeEntry = some routine → ∀ call args,
      last.TypeYields call { name, args } (call routine args last).value.1) ∧
    (typeEntry = none ↔ ∀ call args,
      last.TypeYields call { name, args } (.error (.unknownType name))) ∧
    (∀ routine, macroEntry = some routine → ∀ call args,
      ((Command.runMacro name args).run call last).value =
        Prod.map (Except.map fun _ => ()) id (call routine args last).value) ∧
    (macroEntry = none ↔ ∀ call args,
      ((Command.runMacro name args).run call last).value =
        (.error (.unknownMacro name), last)) ∧
    (∀ (call : Call) {kind : Kind} (command : Command kind), command.sparesRoutines = true →
      (command.run call last).value.2.types = last.types ∧
      (command.run call last).value.2.macros = last.macros) ∧
    ∀ text, start = new text ∨ (∃ options, (withOptions text options).value = .ok start) →
      start.types = .empty ∧ start.macros = .empty := by
  intro last history typeEntry macroEntry
  have typeFound : last.types.find? name = typeEntry :=
    find?_performAll_eq_entryAfter .types name depth start commands
  have macroFound : last.macros.find? name = macroEntry :=
    find?_performAll_eq_entryAfter .macros name depth start commands
  -- a way to run routines under which all of them succeed tells calls from failures
  let succeeding : Call := fun _ _ scanner => pure (.ok none, scanner)
  refine ⟨?_, ⟨?_, ?_⟩, ?_, ⟨?_, ?_⟩, ?_, ?_⟩
  · intro routine registered
    exact typeYields_of_known (typeFound.trans registered)
  · intro absent
    exact typeYields_of_unknown (typeFound.trans absent)
  · intro fails
    cases registered : typeEntry with
    | none => rfl
    | some routine =>
        have yields := typeYields_of_known (typeFound.trans registered) succeeding []
        have answers := yields.checkType.symm.trans (fails succeeding []).checkType
        nomatch answers
  · intro routine registered
    exact Command.run_runMacro_of_known (macroFound.trans registered)
  · intro absent
    exact Command.run_runMacro_of_unknown (macroFound.trans absent)
  · intro fails
    cases registered : macroEntry with
    | none => rfl
    | some routine =>
        have runs := Command.run_runMacro_of_known (macroFound.trans registered) succeeding []
        have answers := congrArg Prod.fst (runs.symm.trans (fails succeeding []))
        nomatch answers
  · intro call kind command spares
    exact ⟨RoutineTable.types.of_run_of_spares spares call last,
      RoutineTable.macros.of_run_of_spares spares call last⟩
  · rintro text (rfl | ⟨options, made⟩)
    · exact ⟨rfl, rfl⟩
    · rw [eq_of_withOptions made]
      exact ⟨rfl, rfl⟩

/-- A macro that replaces a type, removes itself and fails, and a type that forgets all
routines of its copy and registers another one there. -/
theorem lookups_follow_history_of_restless_routines :
    let short : Routine := fun _ => .finish (.ok (some "a"))
    let long : Routine := fun _ => .finish (.ok (some "añ"))
    let renew : Routine := fun _ =>
      .perform (.addType "word" long) fun _ =>
      .perform (.removeMacro "renew") fun _ =>
      .perform (.removeType "absent") fun answer => .finish (answer.map fun _ => none)
    let rogue : Routine := fun _ =>
      .perform (.reset true) fun _ =>
      .perform (.addType "word" short) fun _ =>
      .perform (.scanType "word" []) fun answer => .finish answer
    let commands : List AnyCommand :=
      [⟨_, .addType "word" short⟩, ⟨_, .addType "rogue" rogue⟩, ⟨_, .addMacro "renew" renew⟩,
        ⟨_, .runMacro "renew" []⟩, ⟨_, .scanType "rogue" []⟩,
        ⟨_, .onDuplicate (.perform (.removeType "word") fun _ => .finish (.ok none))⟩]
    let last := (new "añb").performAll (callWithin 3) commands
    ((Command.checkType "word" []).run (callWithin 3) last).value.1 = .ok (some "añ") ∧
      ((Command.checkType "rogue" []).run (callWithin 3) last).value.1 = .ok (some "a") ∧
      ((Command.checkEnum (.type ⟨"absent", []⟩) .null).run (callWithin 3) last).value.1 =
        .error (.unknownType "absent") ∧
      ((Command.runMacro "renew" []).run (callWithin 3) last).value =
        (.error (.unknownMacro "renew"), last) := by
  intro short long renew rogue commands last
  have law := lookups_follow_history 3 (new "añb") commands
  let history := (new "añb").history 3 commands
  have replaced : RoutineTable.types.entryAfter "word" (new "añb") history = some long := by rfl
  have kept : RoutineTable.types.entryAfter "rogue" (new "añb") history = some rogue := by rfl
  have absent : RoutineTable.types.entryAfter "absent" (new "añb") history = none := by
    decide +kernel
  have removed : RoutineTable.macros.entryAfter "renew" (new "añb") history = none := by
    decide +kernel
  refine ⟨?_, ?_, ?_, ?_⟩
  · exact ((law "word").1 long replaced (callWithin 3) []).checkType
  · exact ((law "rogue").1 rogue kept (callWithin 3) []).checkType
  · exact ((law "absent").2.1.mp absent (callWithin 3) []).checkEnum .null
  · exact (law "renew").2.2.2.1.mp removed (callWithin 3) []

end Scanner

end TextScanner
