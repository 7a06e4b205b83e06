import TextScanner.Proofs.Frame

/-!
# Undoing a movement

A movement keeps the cursor that it leaves in the place that undo returns to
(`Command.undoCursor_of_moves`).  There is one such place, and what is no
movement leaves it alone together with the cursor (`Command.cursors_of_idles`);
so it is found there after any number of other calls.

Undo exchanges the two cursors.  Repeated, it alternates between the cursor
before the movement and the one after it.
-/

namespace TextScanner

namespace Command

variable {kind : Kind} {command : Command kind} {call : Call} {scanner : Scanner}

/-- Whether a command moves the cursor of a scanner: to a place, over a text, to a
pointer that exists, or behind a match. -/
def moves (call : Call) (scanner : Scanner) : {kind : Kind} → Command kind → Bool
  | _, .moveBy _ | _, .moveTo _ | _, .advanceOver _ => true
  | _, .loadPointer name => scanner.pointers.contains name
  | _, command => command.matched? call scanner == some true

/-- Whether a command is none of a movement, an undo, a reset and a macro. -/
def idles (call : Call) (scanner : Scanner) : {kind : Kind} → Command kind → Bool
  | _, .undo | _, .reset _ => false
  | _, command => !command.moves call scanner && !command.runsMacro scanner

/-- A movement can be undone. -/
theorem undoCursor_of_moves (moves : command.moves call scanner = true) :
    (command.run call scanner).value.2.undoCursor = scanner.cursor := by
  cases command
  case moveBy | moveTo | advanceOver => rfl
  case loadPointer name =>
      rcases Option.isSome_iff_exists.mp moves with ⟨saved, found⟩
      rw [run_loadPointer_of_known call found]
  case scanOutcome | scan | scanLiteral | scanPattern | scanEnum | scanType =>
      rcases run_of_matched (beq_iff_eq.mp moves) with ⟨text, advanced⟩
      rw [advanced]
      rfl
  all_goals simp [Command.moves, matched?, scan?] at moves

/-- What neither moves nor undoes, rewinds or runs a macro leaves the cursor and
the place that undo returns to. -/
theorem cursors_of_idles (idles : command.idles call scanner = true) :
    (command.run call scanner).value.2.cursor = scanner.cursor ∧
      (command.run call scanner).value.2.undoCursor = scanner.undoCursor := by
  cases command
  case undo | reset => simp [Command.idles] at idles
  all_goals
    simp only [Command.idles, moves, Bool.and_eq_true, Bool.not_eq_true'] at idles
    rcases idles with ⟨still, noMacro⟩
  case moveBy | moveTo | advanceOver => simp at still
  case loadPointer name =>
      rw [run_loadPointer_of_unknown call still]
      exact ⟨rfl, rfl⟩
  case runMacro name args =>
      rw [runMacro_of_unknown args noMacro]
      exact ⟨rfl, rfl⟩
  case scanOutcome | scan | scanLiteral | scanPattern | scanEnum | scanType =>
      rw [run_of_not_matched rfl (by simpa using still)]
      exact ⟨rfl, rfl⟩
  case view | savePointer | onDuplicate => exact ⟨rfl, rfl⟩
  case checkOutcome | check | checkLiteral | checkPattern | checkEnum | checkType =>
      exact ⟨rfl, rfl⟩
  all_goals exact Scanner.SamePlaces.cursors (configures_samePlaces rfl call scanner)

end Command

namespace Scanner

variable {call : Call} {scanner : Scanner}

/-- Whether no command of a run is, on the scanner that it meets, a movement, an
undo, a reset or a macro. -/
def idlesThrough (call : Call) (scanner : Scanner) : List AnyCommand → Bool
  | [] => true
  | command :: rest =>
      command.2.idles call scanner && idlesThrough call (command.2.run call scanner).value.2 rest

theorem cursors_of_idlesThrough {commands : List AnyCommand}
    (idles : scanner.idlesThrough call commands = true) :
    (scanner.performAll call commands).cursor = scanner.cursor ∧
      (scanner.performAll call commands).undoCursor = scanner.undoCursor := by
  induction commands generalizing scanner with
  | nil => exact ⟨rfl, rfl⟩
  | cons command rest ih =>
      rcases Bool.and_eq_true_iff.mp idles with ⟨idlesFirst, idlesRest⟩
      rcases Command.cursors_of_idles idlesFirst with ⟨sameCursor, sameUndoCursor⟩
      rcases ih idlesRest with ⟨lastCursor, lastUndoCursor⟩
      exact ⟨lastCursor.trans sameCursor, lastUndoCursor.trans sameUndoCursor⟩

/-! ## Repeated undos -/

/-- Performing undo a number of times. -/
def undoTimes (call : Call) (scanner : Scanner) (count : Nat) : Scanner :=
  scanner.performAll call (List.replicate count ⟨_, .undo⟩)

/-- Two undos restore the scanner. -/
theorem undoTimes_two_mul (call : Call) (scanner : Scanner) (rounds : Nat) :
    scanner.undoTimes call (2 * rounds) = scanner := by
  induction rounds with
  | zero => rfl
  | succ rounds ih =>
      rw [Nat.mul_succ]
      exact ih

theorem undoTimes_two_mul_add_one (call : Call) (scanner : Scanner) (rounds : Nat) :
    scanner.undoTimes call (2 * rounds + 1) =
      { scanner with cursor := scanner.undoCursor, undoCursor := scanner.cursor } :=
  undoTimes_two_mul call _ rounds

/-- Where both cursors are the same, there is nothing to undo. -/
theorem undoTimes_of_same (same : scanner.undoCursor = scanner.cursor) :
    scanner.undoTimes call 1 = scanner := by
  rw [undoTimes_two_mul_add_one call scanner 0, same]
  exact congrArg (fun cursor => { scanner with undoCursor := cursor }) same.symm

/-! ## The law of undo -/

/-- After a movement, and whatever else is called that is no movement, undo,
reset or macro, the place that undo returns to holds the cursor before the
movement.  An odd number of undos brings it back and puts the cursor after the
movement in that place; an even number leaves the scanner as it was.  A pointer
saved immediately before the movement is that cursor.  On a scanner that was just
reset or made, undo changes nothing. -/
theorem undo_returns_before_movement (call : Call) :
    (∀ (scanner : Scanner) {kind : Kind} (movement : Command kind)
      (meanwhile : List AnyCommand), movement.moves call scanner = true →
      let moved := (movement.run call scanner).value.2
      moved.idlesThrough call meanwhile = true →
      let last := moved.performAll call meanwhile
      last.cursor = moved.cursor ∧ last.undoCursor = scanner.cursor ∧
      ∀ rounds,
        last.undoTimes call (2 * rounds + 1) =
          { last with cursor := scanner.cursor, undoCursor := moved.cursor } ∧
        last.undoTimes call (2 * rounds) = last) ∧
    (∀ (scanner : Scanner) (name : String) {kind : Kind} (movement : Command kind)
      (meanwhile : List AnyCommand),
      let saving := ((Command.savePointer name).run call scanner).value
      movement.moves call saving.2 = true →
      let moved := (movement.run call saving.2).value.2
      moved.idlesThrough call meanwhile = true →
      saving.1 = scanner.cursor ∧ (moved.performAll call meanwhile).undoCursor = saving.1) ∧
    (∀ (scanner : Scanner) (full : Bool),
      let rewound := ((Command.reset full).run call scanner).value.2
      rewound.undoTimes call 1 = rewound) ∧
    (∀ text, (new text).undoTimes call 1 = new text) ∧
    ∀ text options made, (withOptions text options).value = .ok made →
      made.undoTimes call 1 = made := by
  refine ⟨?_, ?_, ?_, ?_, ?_⟩
  · intro scanner kind movement meanwhile moves moved idles last
    rcases cursors_of_idlesThrough idles with ⟨lastCursor, lastUndoCursor⟩
    have before : last.undoCursor = scanner.cursor :=
      lastUndoCursor.trans (Command.undoCursor_of_moves moves)
    refine ⟨lastCursor, before, ?_⟩
    intro rounds
    constructor
    · rw [undoTimes_two_mul_add_one, before, lastCursor]
    · exact undoTimes_two_mul call last rounds
  · intro scanner name kind movement meanwhile saving moves moved idles
    exact ⟨rfl, (cursors_of_idlesThrough idles).2.trans (Command.undoCursor_of_moves moves)⟩
  · intro scanner full rewound
    apply undoTimes_of_same
    cases full <;> rfl
  · intro text
    exact undoTimes_of_same rfl
  · intro text options made success
    obtain rfl := eq_of_withOptions success
    exact undoTimes_of_same rfl

/-- A scan of a type that moves its copy elsewhere, and calls that do not move. -/
theorem undo_returns_before_movement_of_type_scan :
    let pair : Routine := fun _ =>
      .perform (.moveBy 5) fun _ => .finish (.ok (some "ñb"))
    let scanner := (new "añb€c").performAll (callWithin 2)
      [⟨_, .addType "pair" pair⟩, ⟨_, .moveBy 1⟩]
    let movement := Command.scanType "pair" []
    let meanwhile : List AnyCommand :=
      [⟨_, .savePointer "here"⟩, ⟨_, .checkLiteral "€"⟩, ⟨_, .scanLiteral "x"⟩,
        ⟨_, .loadPointer "there"⟩, ⟨_, .setComparisonMode "insensitive"⟩,
        ⟨_, .onDuplicate (.perform .undo fun _ => .finish (.ok none))⟩]
    let last := (movement.run (callWithin 2) scanner).value.2.performAll (callWithin 2) meanwhile
    last.cursor = { pos := 3, lastPos := 1, lastMatch := some "ñb", offset := 4 } ∧
      (last.undoTimes (callWithin 2) 1).cursor =
        { pos := 1, lastPos := 0, lastMatch := none, offset := 1 } ∧
      last.undoTimes (callWithin 2) 2 = last := by
  intro pair scanner movement meanwhile last
  rcases undo_returns_before_movement (callWithin 2) with ⟨law, _⟩
  have moves : movement.moves (callWithin 2) scanner = true := by decide +kernel
  have idles : (movement.run (callWithin 2) scanner).value.2.idlesThrough (callWithin 2)
      meanwhile = true := by decide +kernel
  rcases law scanner movement meanwhile moves idles with ⟨_, _, undone⟩
  refine ⟨?_, ?_, (undone 1).2⟩
  · decide +kernel
  · rw [(undone 0).1]
    decide +kernel

end Scanner

end TextScanner
