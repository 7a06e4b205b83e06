import TextScanner.Proofs.Unfolding

/-!
# What a full reset keeps

A full reset makes a scanner as new, apart from the tables of output types and
comparison modes (`Scanner.cleared`).  Only two operations write to these tables,
and what they write there does not depend on the rest of the scanner
(`Command.cleared_run_of_registersMode`); all others would be undone by the reset
(`Command.cleared_run_of_not_registersMode`).

So a run that ends with a full reset comes down to the modes that were registered on
the scanner itself, directly or by macros (`Scanner.cleared_performAll`).
-/

namespace TextScanner

/-- Whether a command registers an output type or a comparison mode. -/
def Command.registersMode : {kind : Kind} → Command kind → Bool
  | _, .addOutputType _ _ | _, .addComparisonMode _ _ => true
  | _, _ => false

namespace Scanner

/-- The commands of a run that register modes on the scanner itself, in order. -/
def registrations (depth : Nat) (scanner : Scanner) (commands : List AnyCommand) :
    List AnyCommand :=
  (scanner.unfolded depth commands).filter fun command => command.2.registersMode

/-- A scanner after a full reset.  The text and the tables of modes are left of it. -/
def cleared (scanner : Scanner) : Scanner :=
  (scanner.reset true).value

theorem cleared_new (text : String) : (new text).cleared = new text :=
  rfl

end Scanner

namespace Command

variable {kind : Kind} {command : Command kind}

/-- Modes are registered alike before and after a full reset. -/
theorem cleared_run_of_registersMode (registers : command.registersMode = true) (call : Call)
    (scanner : Scanner) :
    (command.run call scanner).value.2.cleared = (command.run call scanner.cleared).value.2 := by
  cases command
  case addOutputType name render =>
      simp only [run, done, Logged.value_map, Scanner.addOutputType]
      split <;> rfl
  case addComparisonMode => rfl
  all_goals simp [registersMode] at registers

/-- What a direct command does other than registering a mode is lost by a full reset. -/
theorem cleared_run_of_not_registersMode (direct : command.direct = true)
    (registers : command.registersMode = false) (call : Call) (scanner : Scanner) :
    (command.run call scanner).value.2.cleared = scanner.cleared := by
  cases command
  case runMacro => simp [Command.direct] at direct
  case scanOutcome | scan | scanLiteral | scanPattern | scanEnum | scanType =>
      simp [Command.direct, scan?] at direct
  case addOutputType | addComparisonMode => simp [registersMode] at registers
  case reset full => cases full <;> rfl
  case loadPointer | removeType | removeMacro | setOutputType | setComparisonMode =>
      simp only [run, value_settle, Scanner.loadPointer, Scanner.removeType,
        Scanner.removeMacro, Scanner.setOutputType, Scanner.setComparisonMode]
      split <;> rfl
  all_goals rfl

end Command

namespace Scanner

/-- Of a run of direct commands, a full reset leaves the registrations of modes. -/
theorem cleared_performAll {commands : List AnyCommand}
    (direct : ∀ command ∈ commands, command.2.direct = true) (call : Call)
    (scanner : Scanner) :
    (scanner.performAll call commands).cleared =
      scanner.cleared.performAll call
        (commands.filter fun command => command.2.registersMode) := by
  induction commands generalizing scanner with
  | nil => rfl
  | cons command rest ih =>
      rcases List.forall_mem_cons.mp direct with ⟨directFirst, directRest⟩
      rw [performAll, ih directRest]
      cases registers : command.2.registersMode with
      | true =>
          rw [List.filter_cons, if_pos registers, performAll,
            Command.cleared_run_of_registersMode registers]
      | false =>
          rw [List.filter_cons, if_neg (Bool.eq_false_iff.mp registers),
            Command.cleared_run_of_not_registersMode directFirst registers]

/-- The same for any run, however routines are run when the modes are registered
again. -/
theorem cleared_performAll_eq_registrations (depth : Nat) (scanner : Scanner)
    (commands : List AnyCommand) (call : Call) :
    (scanner.performAll (callWithin depth) commands).cleared =
      scanner.cleared.performAll call (scanner.registrations depth commands) := by
  have leads := scanner.unfolded_leads depth commands
  rw [← leads.performAll_eq call]
  exact cleared_performAll leads.direct call scanner

/-- A run on a new scanner that ends with a full reset leads to a new scanner with
the modes that the run registered on the scanner itself, in the same order, and
nothing else, however routines are run when they are registered again.  Two runs that
register the same modes lead to the same scanner, so nothing that is done after the
reset tells them apart, and a run that registers none might not have been made. -/
theorem full_reset_forgets_all_but_modes (depth : Nat) (text : String)
    (commands : List AnyCommand) :
    let registered := (new text).registrations depth commands
    let rewound := ((Command.reset true).run (callWithin depth)
      ((new text).performAll (callWithin depth) commands)).value.2
    (∀ call, rewound = (new text).performAll call registered) ∧
    (∀ command ∈ registered, command.2.registersMode = true) ∧
    (∀ otherDepth others, (new text).registrations otherDepth others = registered →
      ((Command.reset true).run (callWithin otherDepth)
        ((new text).performAll (callWithin otherDepth) others)).value.2 = rewound) ∧
    (registered = [] → rewound = new text) := by
  intro registered rewound
  have replayed (call : Call) : rewound = (new text).performAll call registered := by
    have replay := cleared_performAll_eq_registrations depth (new text) commands call
    rw [cleared_new] at replay
    exact replay
  refine ⟨replayed, ?_, ?_, ?_⟩
  · intro command member
    exact (List.mem_filter.mp member).2
  · intro otherDepth others sameModes
    rw [replayed (callWithin depth), ← sameModes]
    exact cleared_performAll_eq_registrations otherDepth (new text) others _
  · intro noModes
    rw [replayed (callWithin depth), noModes, performAll]

/-- A macro that registers modes and resets the scanner halfway, and a type that
registers a mode on its copy. -/
theorem full_reset_forgets_all_but_modes_of_busy_run :
    let prepare : Routine := fun _ =>
      .perform (.addComparisonMode "loud" .insensitive) fun _ =>
      .perform (.putData "key" (.boolean true)) fun _ =>
      .perform (.reset true) fun _ =>
      .perform (.addOutputType "normal" fun _ => .null) fun _ =>
      .perform (.addOutputType "bare" fun _ => .null) fun _ => .finish (.ok none)
    let hidden : Routine := fun _ =>
      .perform (.addComparisonMode "hidden" .normal) fun _ => .finish (.ok (some "a"))
    let commands : List AnyCommand :=
      [⟨_, .addMacro "prepare" prepare⟩, ⟨_, .moveBy 2⟩, ⟨_, .runMacro "prepare" []⟩,
        ⟨_, .addType "hidden" hidden⟩, ⟨_, .setOutputType "bare"⟩,
        ⟨_, .setComparisonMode "loud"⟩, ⟨_, .scanType "hidden" []⟩,
        ⟨_, .savePointer "mark"⟩, ⟨_, .undo⟩]
    let last := (new "añb").performAll (callWithin 2) commands
    let rewound := ((Command.reset true).run (callWithin 2) last).value.2
    last.cursor.pos = 0 ∧ last.outputType = "bare" ∧ last.types.names = ["hidden"] ∧
      ((new "añb").registrations 2 commands).length = 3 ∧
      rewound.outputTypes.names = ["advanced", "bare", "full", "normal"] ∧
      rewound.comparisonModes.names = ["insensitive", "loud", "normal"] ∧
      rewound =
        (new "añb").performAll (callWithin 0) ((new "añb").registrations 2 commands) := by
  intro prepare hidden commands last rewound
  rcases full_reset_forgets_all_but_modes 2 "añb" commands with ⟨replayed, _, _, _⟩
  refine ⟨?_, ?_, ?_, ?_, ?_, ?_, replayed (callWithin 0)⟩
  all_goals decide +kernel

end Scanner

end TextScanner
