import TextScanner.Proofs.Unfolding

/-!
# Saved pointers

A scanner keeps a saved cursor until it saves another one under the same name or
is reset fully.  Nothing else that is done to the scanner itself touches the
table of pointers at that name (`Command.find?_pointers_of_spares`), and what
routines save on copies stays there.

So a pointer can be loaded after any run in which the scanner itself does neither,
be it directly or through macros, and leads back to where it was saved.
-/

namespace TextScanner

/-- Whether a command neither saves a pointer under a name nor forgets all
pointers. -/
def Command.sparesPointer (name : String) : {kind : Kind} → Command kind → Bool
  | _, .savePointer saved => saved != name
  | _, .reset full => !full
  | _, _ => true

theorem Command.find?_pointers_of_spares {kind : Kind} {command : Command kind}
    {name : String} (direct : command.direct = true)
    (spares : command.sparesPointer name = true) (call : Call) (scanner : Scanner) :
    (command.run call scanner).value.2.pointers.find? name = scanner.pointers.find? name := by
  cases command
  case savePointer saved =>
      exact Table.find?_insert_of_ne _ _ (by simpa [sparesPointer] using spares)
  case reset full =>
      cases full with
      | false => rfl
      | true => simp [sparesPointer] at spares
  case loadPointer wanted =>
      simp only [run, value_settle, Scanner.loadPointer]
      cases scanner.pointers.find? wanted <;> rfl
  case runMacro => simp [Command.direct] at direct
  case scanOutcome | scan | scanLiteral | scanPattern | scanEnum | scanType =>
      simp [Command.direct, scan?] at direct
  case view | moveBy | moveTo | advanceOver | undo | onDuplicate => rfl
  case checkOutcome | check | checkLiteral | checkPattern | checkEnum | checkType => rfl
  all_goals rw [(configures_samePlaces rfl call scanner).pointers]

namespace Scanner

/-- A pointer outlasts every run that spares it. -/
theorem find?_pointers_performAll {call : Call} {scanner : Scanner} {name : String}
    {commands : List AnyCommand} (direct : ∀ command ∈ commands, command.2.direct = true)
    (spares : ∀ command ∈ commands, command.2.sparesPointer name = true) :
    (scanner.performAll call commands).pointers.find? name = scanner.pointers.find? name := by
  induction commands generalizing scanner with
  | nil => rfl
  | cons command rest ih =>
      rcases List.forall_mem_cons.mp direct with ⟨directFirst, directRest⟩
      rcases List.forall_mem_cons.mp spares with ⟨sparesFirst, sparesRest⟩
      rw [performAll, ih directRest sparesRest]
      exact Command.find?_pointers_of_spares directFirst sparesFirst call scanner

/-- After any run in which the scanner itself neither saves a pointer again nor is
reset fully, directly or through macros, loading the pointer succeeds.  The cursor
is that of the time of saving and splits the text as it did then, undo returns to
where the load was made, and the pointer is still there. -/
theorem saved_pointer_outlasts_run (depth : Nat) (scanner : Scanner) (name : String)
    (commands : List AnyCommand) :
    let call := callWithin depth
    let saving := ((Command.savePointer name).run call scanner).value
    (∀ command ∈ saving.2.unfolded depth commands, command.2.sparesPointer name = true) →
    let last := saving.2.performAll call commands
    let loading := ((Command.loadPointer name).run call last).value
    saving.1 = scanner.cursor ∧ loading.1 = .ok () ∧
    loading.2 = { last with cursor := scanner.cursor, undoCursor := last.cursor } ∧
    loading.2.scannedText = scanner.scannedText ∧
    loading.2.unscannedText = scanner.unscannedText ∧
    loading.2.pointers.find? name = some scanner.cursor := by
  intro call saving spares last loading
  have leads : saving.2.LeadsDirectly (saving.2.unfolded depth commands) last :=
    unfolded_leads depth saving.2 commands
  have known : last.pointers.find? name = some scanner.cursor := by
    rw [← leads.performAll_eq call, find?_pointers_performAll leads.direct spares]
    exact Table.find?_insert_self _ _ _
  have loaded : loading =
      (.ok (), { last with cursor := scanner.cursor, undoCursor := last.cursor }) :=
    Command.run_loadPointer_of_known call known
  have sameText : last.text = scanner.text := text_performAll depth saving.2 commands
  rw [loaded]
  refine ⟨rfl, rfl, rfl, ?_, ?_, known⟩
  · rw [scannedText, scannedText, sameText]
  · rw [unscannedText, unscannedText, sameText]

/-- A type and a macro that save a pointer of the same name on copies, between
movements, an undo and a reset that is not full. -/
theorem saved_pointer_outlasts_run_of_greedy_type :
    let greedy : Routine := fun _ =>
      .perform (.moveBy 1) fun _ =>
      .perform (.savePointer "mark") fun _ =>
      .perform (.reset true) fun _ => .finish (.ok (some "b"))
    let stroll : Routine := fun _ =>
      .perform (.savePointer "other") fun _ =>
      .perform (.scanType "greedy" []) fun _ =>
      .perform (.onDuplicate (.perform (.savePointer "mark") fun _ => .finish (.ok none)))
        fun _ => .finish (.ok none)
    let scanner := (new "añb€c").performAll (callWithin 3)
      [⟨_, .addType "greedy" greedy⟩, ⟨_, .addMacro "stroll" stroll⟩, ⟨_, .scanLiteral "añ"⟩]
    let commands : List AnyCommand :=
      [⟨_, .runMacro "stroll" []⟩, ⟨_, .undo⟩, ⟨_, .moveBy 9⟩, ⟨_, .reset false⟩,
        ⟨_, .setComparisonMode "insensitive"⟩, ⟨_, .moveTo 4⟩, ⟨_, .loadPointer "other"⟩,
        ⟨_, .scanType "greedy" []⟩]
    let saved := ((Command.savePointer "mark").run (callWithin 3) scanner).value.2
    let last := saved.performAll (callWithin 3) commands
    let loading := ((Command.loadPointer "mark").run (callWithin 3) last).value
    last.cursor = { pos := 3, lastPos := 2, lastMatch := some "b", offset := 4 } ∧
      loading.2 = { last with cursor := scanner.cursor, undoCursor := last.cursor } ∧
      scanner.cursor = { pos := 2, lastPos := 0, lastMatch := some "añ", offset := 3 } ∧
      loading.2.unscannedText = "b€c" := by
  intro greedy stroll scanner commands saved last loading
  have spares : ∀ command ∈ saved.unfolded 3 commands,
      command.2.sparesPointer "mark" = true := by decide +kernel
  have lastCursor : last.cursor =
      { pos := 3, lastPos := 2, lastMatch := some "b", offset := 4 } := by decide +kernel
  have scannerCursor : scanner.cursor =
      { pos := 2, lastPos := 0, lastMatch := some "añ", offset := 3 } := by decide +kernel
  have unscanned : scanner.unscannedText = "b€c" := by decide +kernel
  -- from here on the run need not be evaluated
  clear_value scanner commands
  rcases saved_pointer_outlasts_run 3 scanner "mark" commands spares with
    ⟨_, _, loaded, _, sameUnscanned, _⟩
  exact ⟨lastCursor, loaded, scannerCursor, sameUnscanned.trans unscanned⟩

end Scanner

end TextScanner
