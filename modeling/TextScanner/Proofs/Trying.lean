import TextScanner.Proofs.Honesty

/-!
# Runs that only try

The cursor advances by the number of characters of a consumed text, not by a
range of the text.  Where every match consumes what stands behind the cursor,
that makes no difference: the advance is never cut short by the end of the text
(`Scanner.afterMatch_cursor`), and the texts consumed by a run of checks, scans
and switches of the comparison mode follow each other in the text without gaps
(`Scanner.take_performAll`).

A routine that only tries, and returns what its scans consumed, returns a
beginning of the text behind the cursor.  So types with such routines are honest,
and may be built from each other without end (`Scanner.honest_of_tryingRoutines`,
by induction on how deep they call each other).
-/

namespace TextScanner

/-! ## Trying without moving otherwise -/

namespace Command

/-- A command that looks, checks, scans or switches the comparison mode. -/
inductive Tries : {kind : Kind} → Command kind → Prop
  | view : Tries .view
  | check {kind : Kind} {command : Command kind} {search : Search}
      (checks : command.check? = some search) : Tries command
  | scan {kind : Kind} {command : Command kind} {search : Search}
      (scans : command.scan? = some search) : Tries command
  | setComparisonMode (name : String) : Tries (.setComparisonMode name)

variable {kind : Kind} {command : Command kind} {call : Call} {scanner : Scanner}

/-- The text that a command consumes: that of the outcome, if the command is a
scan and its search matches. -/
def consumed (call : Call) (scanner : Scanner) (command : Command kind) : Option String :=
  match command.scan?.map (Search.outcome call scanner) with
  | some (.ok outcome) => outcome.consumed
  | _ => none

theorem consumed_eq_some_iff {text : String} :
    command.consumed call scanner = some text ↔
      ∃ search outcome, command.scan? = some search ∧
        search.outcome call scanner = .ok outcome ∧ outcome.consumed = some text := by
  unfold consumed
  cases command.scan? with
  | none => simp
  | some search =>
      cases searched : search.outcome call scanner with
      | error error => simp [searched]
      | ok outcome => simp [searched]

/-- Consuming a text leaves the scanner after the match. -/
theorem run_of_consumed (placed : scanner.WellPlaced) {text : String}
    (matched : command.consumed call scanner = some text) :
    (command.run call scanner).value.2 = scanner.afterMatch text := by
  rcases consumed_eq_some_iff.mp matched with ⟨search, outcome, scans, searched, consumed⟩
  rw [run_of_scan? scans, searched, Scanner.past_ok, Scanner.value_commit placed consumed]

/-- A command that tries and consumes nothing leaves everything but the active
comparison mode. -/
theorem Tries.run_of_not_consumed (tries : command.Tries)
    (idle : command.consumed call scanner = none) :
    (command.run call scanner).value.2 = scanner ∨
      ∃ name, (command.run call scanner).value.2 = { scanner with comparisonMode := name } := by
  cases tries with
  | view => exact Or.inl rfl
  | check checks => exact Or.inl (run_of_check? checks call scanner)
  | scan scans =>
      left
      rw [run_of_scan? scans]
      simp only [consumed, scans, Option.map_some] at idle
      cases searched : Search.outcome call scanner _ with
      | error error => rfl
      | ok outcome =>
          rw [searched] at idle
          exact Scanner.value_commit_of_none idle
  | setComparisonMode name =>
      simp only [run, value_settle, Scanner.setComparisonMode]
      split
      · exact Or.inr ⟨name, rfl⟩
      · exact Or.inl rfl

end Command

namespace Scanner

variable {call : Call} {scanner : Scanner}

theorem afterMatch_elsewhere (scanner : Scanner) (text : String) :
    scanner.Elsewhere (scanner.afterMatch text) :=
  rfl

/-- Trying leads elsewhere in the same text and keeps the cursors in it. -/
theorem tries_elsewhere (call : Call) {kind : Kind} {command : Command kind}
    (tries : command.Tries) (placed : scanner.WellPlaced) :
    scanner.Elsewhere (command.run call scanner).value.2 ∧
      (command.run call scanner).value.2.WellPlaced := by
  cases consumed : command.consumed call scanner with
  | some text =>
      rw [Command.run_of_consumed placed consumed]
      exact ⟨scanner.afterMatch_elsewhere text, placed.afterMatch text⟩
  | none =>
      rcases tries.run_of_not_consumed consumed with same | ⟨name, switched⟩
      · rw [same]
        exact ⟨Elsewhere.refl scanner, placed⟩
      · rw [switched]
        exact ⟨rfl, placed.of_eq rfl rfl rfl rfl⟩

theorem performAll_elsewhere (call : Call) {commands : List AnyCommand}
    (tries : ∀ command ∈ commands, command.2.Tries) (placed : scanner.WellPlaced) :
    scanner.Elsewhere (scanner.performAll call commands) ∧
      (scanner.performAll call commands).WellPlaced := by
  induction commands generalizing scanner with
  | nil => exact ⟨Elsewhere.refl scanner, placed⟩
  | cons command rest ih =>
      rcases List.forall_mem_cons.mp tries with ⟨triesFirst, triesRest⟩
      rcases tries_elsewhere call triesFirst placed with ⟨elsewhere, placedNext⟩
      rcases ih triesRest placedNext with ⟨further, placedLast⟩
      exact ⟨elsewhere.trans further, placedLast⟩

/-! ## One match -/

/-- Consuming what stands behind the cursor is not cut short by the end of the
text, and passes exactly what is consumed. -/
theorem afterMatch_cursor (placed : scanner.WellPlaced) {text : String}
    (begins : text.toList <+: scanner.unscannedText.toList) :
    (scanner.afterMatch text).cursor.pos = scanner.cursor.pos + text.length ∧
      scanner.text.toList.take (scanner.cursor.pos + text.length) =
        scanner.text.toList.take scanner.cursor.pos ++ text.toList := by
  rw [placed.unscannedText_eq] at begins
  rcases begins with ⟨rest, split⟩
  have within := placed.cursor.pos_le
  have lengths := congrArg List.length split
  rw [List.length_append, List.length_drop, String.length_toList,
    String.length_toList] at lengths
  rw [String.length_toList] at within
  constructor
  · change min (scanner.cursor.pos + text.length) scanner.text.length = _
    omega
  · rw [List.take_add, ← split, ← String.length_toList, List.take_left]

/-! ## Runs -/

/-- The texts that a run of commands consumes, in order. -/
def tokens (call : Call) (scanner : Scanner) : List AnyCommand → List String
  | [] => []
  | command :: rest =>
      (command.2.consumed call scanner).toList ++
        tokens call (command.2.run call scanner).value.2 rest

/-- Every text that a run of commands consumes stands behind the cursor when it
is consumed. -/
def ConsumesBehindCursor (call : Call) (scanner : Scanner) : List AnyCommand → Prop
  | [] => True
  | command :: rest =>
      (∀ ⦃text : String⦄, command.2.consumed call scanner = some text →
        text.toList <+: scanner.unscannedText.toList) ∧
      ConsumesBehindCursor call (command.2.run call scanner).value.2 rest

theorem Honest.consumed_isPrefix (honest : scanner.Honest call) (placed : scanner.WellPlaced)
    {kind : Kind} {command : Command kind} {text : String}
    (matched : command.consumed call scanner = some text) :
    text.toList <+: scanner.unscannedText.toList := by
  rcases Command.consumed_eq_some_iff.mp matched with ⟨search, outcome, _, searched, consumed⟩
  exact honest.consumesAt placed search searched consumed

theorem Honest.consumesBehindCursor (honest : scanner.Honest call)
    (placed : scanner.WellPlaced) {commands : List AnyCommand}
    (tries : ∀ command ∈ commands, command.2.Tries) :
    scanner.ConsumesBehindCursor call commands := by
  induction commands generalizing scanner with
  | nil => trivial
  | cons command rest ih =>
      rcases List.forall_mem_cons.mp tries with ⟨triesFirst, triesRest⟩
      rcases tries_elsewhere call triesFirst placed with ⟨elsewhere, placedNext⟩
      exact ⟨fun _ matched => honest.consumed_isPrefix placed matched,
        ih (honest.elsewhere elsewhere) placedNext triesRest⟩

/-- A run passes its tokens, in order and without gaps. -/
theorem take_performAll {commands : List AnyCommand}
    (tries : ∀ command ∈ commands, command.2.Tries) (placed : scanner.WellPlaced)
    (consumes : scanner.ConsumesBehindCursor call commands) :
    scanner.text.toList.take (scanner.performAll call commands).cursor.pos =
      scanner.text.toList.take scanner.cursor.pos ++
        (String.join (scanner.tokens call commands)).toList := by
  induction commands generalizing scanner with
  | nil => simp [performAll, tokens]
  | cons command rest ih =>
      rcases List.forall_mem_cons.mp tries with ⟨triesFirst, triesRest⟩
      rcases consumes with ⟨consumesFirst, consumesRest⟩
      rcases tries_elsewhere call triesFirst placed with ⟨elsewhere, placedNext⟩
      have later := ih triesRest placedNext consumesRest
      rw [elsewhere.text_eq] at later
      rw [performAll, tokens, String.join_append, String.toList_append, later,
        ← List.append_assoc]
      congr 1
      cases matched : command.2.consumed call scanner with
      | some text =>
          rcases afterMatch_cursor placed (consumesFirst matched) with ⟨landing, passed⟩
          rw [Command.run_of_consumed placed matched, landing, passed]
          simp
      | none =>
          rcases triesFirst.run_of_not_consumed matched with same | ⟨name, switched⟩
          · simp [same]
          · simp [switched]

theorem tokens_isPrefix {commands : List AnyCommand}
    (tries : ∀ command ∈ commands, command.2.Tries) (placed : scanner.WellPlaced)
    (consumes : scanner.ConsumesBehindCursor call commands) :
    (String.join (scanner.tokens call commands)).toList <+: scanner.unscannedText.toList := by
  have split := List.take_append_drop scanner.cursor.pos scanner.text.toList
  rw [placed.unscannedText_eq]
  apply (List.prefix_append_right_inj (scanner.text.toList.take scanner.cursor.pos)).mp
  rw [split, ← take_performAll tries placed consumes]
  exact List.take_prefix _ _

/-- The single movements of a run end as far on as its tokens are long. -/
theorem pos_performAll {commands : List AnyCommand}
    (tries : ∀ command ∈ commands, command.2.Tries) (placed : scanner.WellPlaced)
    (consumes : scanner.ConsumesBehindCursor call commands) :
    (scanner.performAll call commands).cursor.pos =
      scanner.cursor.pos + (String.join (scanner.tokens call commands)).length := by
  rcases performAll_elsewhere call tries placed with ⟨elsewhere, placedLast⟩
  have tiles := congrArg List.length (take_performAll tries placed consumes)
  have start := placed.cursor.pos_le
  have last := placedLast.cursor.pos_le
  rw [elsewhere.text_eq] at last
  rw [List.length_append, List.length_take, List.length_take] at tiles
  rw [← String.length_toList]
  omega

end Scanner

/-! ## Routines that only try -/

/-- The commands that a script performs, in order. -/
def Script.performed (call : Call) : Script → Scanner → List AnyCommand
  | .finish _, _ => []
  | .perform command next, scanner =>
      ⟨_, command⟩ ::
        (next (command.run call scanner).value.1).performed call
          (command.run call scanner).value.2

theorem Script.value_run_perform (call : Call) (scanner : Scanner) {kind : Kind}
    (command : Command kind) (next : Answer kind → Script) :
    ((perform command next).run call scanner).value =
      ((next (command.run call scanner).value.1).run call
        (command.run call scanner).value.2).value := by
  rw [Script.run]
  rfl

/-- A script leaves the scanner as the commands that it performs do. -/
theorem Script.run_eq_performAll (call : Call) :
    ∀ (script : Script) (scanner : Scanner),
      (script.run call scanner).value.2 =
        scanner.performAll call (script.performed call scanner)
  | .finish _, _ => by
      rw [Script.run]
      rfl
  | .perform command next, scanner => by
      rw [Script.value_run_perform, Script.performed, Scanner.performAll]
      exact Script.run_eq_performAll call (next _) _

namespace Scanner

variable {call : Call} {scanner : Scanner}

/-- A routine that, wherever the cursor of a scanner is and however deep calls
may go, only tries, and returns what its scans consumed if it returns a text. -/
def TryingRoutine (scanner : Scanner) (routine : Routine) : Prop :=
  ∀ ⦃place : Scanner⦄, scanner.Elsewhere place → place.WellPlaced →
    ∀ ⦃depth : Nat⦄ ⦃args : List Value⦄ ⦃found : String⦄,
      ((routine args).run (callWithin depth) place).value.1 = .ok (some found) →
        (∀ command ∈ (routine args).performed (callWithin depth) place, command.2.Tries) ∧
        found = String.join (place.tokens (callWithin depth)
          ((routine args).performed (callWithin depth) place))

/-- Types that only try are honest over honest modes, whichever types they try. -/
theorem honest_of_tryingRoutines
    (modes : ∀ ⦃name mode⦄, scanner.comparisonModes.find? name = some mode → mode.Honest)
    (types : ∀ ⦃name routine⦄, scanner.types.find? name = some routine →
      scanner.TryingRoutine routine) (depth : Nat) :
    scanner.Honest (callWithin depth) := by
  refine ⟨modes, ?_⟩
  induction depth with
  | zero =>
      intro name routine registered place elsewhere placed args found returned
      simp [callWithin] at returned
  | succ depth ih =>
      intro name routine registered place elsewhere placed args found returned
      rcases types registered elsewhere placed returned with ⟨tries, found_eq⟩
      have honest : place.Honest (callWithin depth) :=
        Honest.elsewhere ⟨modes, ih⟩ elsewhere
      rw [found_eq]
      exact tokens_isPrefix tries placed (honest.consumesBehindCursor placed tries)

end Scanner

/-! ## Scans in order -/

/-- Scan options, list after list, and finish with all that was consumed.  A list
of which nothing matches ends the script without a text. -/
def Script.inOrder : (found : String) → (parts : List (List ScanOption)) → Script
  | found, [] => .finish (.ok (some found))
  | found, options :: rest =>
      .perform (.scanOutcome options) fun answer =>
        match answer.map Outcome.consumed with
        | .ok (some text) => inOrder (found ++ text) rest
        | .ok none => .finish (.ok none)
        | .error error => .finish (.error error)

theorem Script.inOrder_tries (call : Call) (scanner : Scanner) (found : String)
    (parts : List (List ScanOption)) :
    ∀ command ∈ (inOrder found parts).performed call scanner, command.2.Tries := by
  induction parts generalizing scanner found with
  | nil => simp [inOrder, performed]
  | cons options rest ih =>
      rw [inOrder, performed]
      intro command member
      rcases List.mem_cons.mp member with rfl | later
      · exact .scan rfl
      · split at later
        · exact ih _ _ command later
        · simp [performed] at later
        · simp [performed] at later

/-- What a scan of options answers says what it consumes. -/
theorem Command.consumed_of_answer {call : Call} {scanner : Scanner}
    {options : List ScanOption} {found : Option String}
    (answered : ((scanOutcome options).run call scanner).value.1.map Outcome.consumed =
      .ok found) :
    (scanOutcome options).consumed call scanner = found := by
  rw [scanOutcome_answer] at answered
  rcases map_eq_ok_iff.mp answered with ⟨outcome, checked, rfl⟩
  simp only [consumed, scan?, Option.map_some, Search.outcome, checked]

theorem Script.inOrder_found {call : Call} {scanner : Scanner} {found result : String}
    {parts : List (List ScanOption)}
    (returned : ((inOrder found parts).run call scanner).value.1 = .ok (some result)) :
    result = found ++
      String.join (scanner.tokens call ((inOrder found parts).performed call scanner)) := by
  induction parts generalizing scanner found with
  | nil =>
      obtain rfl := Option.some.inj (Except.ok.inj returned)
      simp [inOrder, performed, Scanner.tokens]
  | cons options rest ih =>
      rw [inOrder, value_run_perform] at returned
      rw [inOrder, performed, Scanner.tokens]
      cases answered : ((Command.scanOutcome options).run call scanner).value.1.map
          Outcome.consumed with
      | error error =>
          rw [answered] at returned
          simp [Script.run] at returned
      | ok consumed =>
          rw [answered] at returned
          rw [Command.consumed_of_answer answered]
          cases consumed with
          | none => simp [Script.run] at returned
          | some text =>
              rw [ih returned, String.append_assoc, Option.toList_some, String.join_append]
              simp

theorem Scanner.tryingRoutine_inOrder (scanner : Scanner) (parts : List (List ScanOption)) :
    scanner.TryingRoutine fun _ => .inOrder "" parts := by
  intro place _ _ depth args found returned
  constructor
  · exact Script.inOrder_tries (callWithin depth) place "" parts
  · rw [Script.inOrder_found returned, String.empty_append]

end TextScanner
