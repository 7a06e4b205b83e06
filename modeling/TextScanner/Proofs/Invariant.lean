import TextScanner.Proofs.Change
import TextScanner.Proofs.Placement

/-!
# All stored cursors lie in the text

A scanner stores its cursor, the one that undo returns to, and those saved
under names, and moves between them in any order.  A stored cursor may be much
older than the latest movement, but the text is as old as all of them, so it is
enough that every change leaves cursors that lie in the text
(`Scanner.Change.wellPlaced`).
-/

namespace TextScanner

namespace Scanner

/-- The cursors that a scanner stores. -/
inductive Stores (scanner : Scanner) : Cursor → Prop
  | cursor : Stores scanner scanner.cursor
  | undoCursor : Stores scanner scanner.undoCursor
  | pointer {name : String} {saved : Cursor}
      (known : scanner.pointers.find? name = some saved) : Stores scanner saved

/-- All stored cursors lie in the text. -/
def WellPlaced (scanner : Scanner) : Prop :=
  ∀ cursor, scanner.Stores cursor → cursor.LiesIn scanner.text.toList

variable {scanner changed : Scanner}

theorem WellPlaced.cursor (placed : scanner.WellPlaced) :
    scanner.cursor.LiesIn scanner.text.toList :=
  placed _ .cursor

theorem WellPlaced.undoCursor (placed : scanner.WellPlaced) :
    scanner.undoCursor.LiesIn scanner.text.toList :=
  placed _ .undoCursor

theorem WellPlaced.pointer (placed : scanner.WellPlaced) {name : String} {saved : Cursor}
    (known : scanner.pointers.find? name = some saved) :
    saved.LiesIn scanner.text.toList :=
  placed _ (.pointer known)

theorem new_wellPlaced (text : String) : (new text).WellPlaced := by
  intro cursor stored
  cases stored with
  | cursor => exact Cursor.start_liesIn _
  | undoCursor => exact Cursor.start_liesIn _
  | pointer known => simp [new] at known

/-! ## Movements -/

/-- Both movements by a distance and to a position put the cursor somewhere in
the text. -/
theorem moveBy_eq (placed : scanner.WellPlaced) (distance : Int) :
    scanner.moveBy distance =
      scanner.moveCursor fun cursor =>
        (departing cursor).putAt scanner.text.toList
          (min (cursor.pos + distance).toNat scanner.text.toList.length) := by
  rw [moveBy, moveCursor, moveCursor, departing,
    Cursor.shift_eq placed.cursor.departing.pointsInto]

theorem moveTo_eq (placed : scanner.WellPlaced) (position : Int) :
    scanner.moveTo position =
      scanner.moveCursor fun cursor =>
        (departing cursor).putAt scanner.text.toList
          (min position.toNat scanner.text.toList.length) := by
  rw [moveTo, moveCursor, moveCursor, departing,
    Cursor.seek_eq placed.cursor.departing.pointsInto]

/-- The scanner after a match: its cursor is as many characters further as the
text has, or at the end, and undo returns to where the match began. -/
def afterMatch (scanner : Scanner) (matched : String) : Scanner :=
  let landing := min (scanner.cursor.pos + matched.length) scanner.text.length
  { scanner with
    cursor :=
      { pos := landing
        lastPos := scanner.cursor.pos
        lastMatch := some matched
        offset := byteLength (scanner.text.toList.take landing) }
    undoCursor := scanner.cursor }

theorem value_advanceOver (placed : scanner.WellPlaced) (matched : String) :
    (scanner.advanceOver matched).value = scanner.afterMatch matched := by
  have landing : ((scanner.cursor.pos : Int) + (matched.length : Int)).toNat =
      scanner.cursor.pos + matched.length := by omega
  simp only [advanceOver, Logged.value_note, moveBy_eq placed, moveCursor, departing,
    Cursor.putAt, landing, String.length_toList, afterMatch]

/-! ## Every change keeps the cursors in the text -/

/-- A scanner whose cursor was put elsewhere stores well placed cursors if the
new one is. -/
theorem WellPlaced.moveCursor (placed : scanner.WellPlaced) {change : Cursor → Cursor}
    (target : (change scanner.cursor).LiesIn scanner.text.toList) :
    (scanner.moveCursor change).WellPlaced := by
  intro cursor stored
  cases stored with
  | cursor => exact target
  | undoCursor => exact placed.cursor
  | pointer known => exact placed.pointer known

theorem WellPlaced.afterMatch (placed : scanner.WellPlaced) (matched : String) :
    (scanner.afterMatch matched).WellPlaced := by
  intro cursor stored
  cases stored with
  | cursor =>
      have within := placed.cursor.pos_le
      exact
        { pos_le := by
            rw [Scanner.afterMatch, String.length_toList]
            exact Nat.min_le_right _ _
          lastPos_le := within
          offset_eq := rfl }
  | undoCursor => exact placed.cursor
  | pointer known => exact placed.pointer known

theorem WellPlaced.undo (placed : scanner.WellPlaced) : scanner.undo.value.WellPlaced := by
  intro cursor stored
  cases stored with
  | cursor => exact placed.undoCursor
  | undoCursor => exact placed.cursor
  | pointer known => exact placed.pointer known

theorem WellPlaced.reset (placed : scanner.WellPlaced) (full : Bool) :
    (scanner.reset full).value.WellPlaced := by
  intro cursor stored
  cases stored with
  | cursor => cases full <;> exact Cursor.start_liesIn _
  | undoCursor => cases full <;> exact Cursor.start_liesIn _
  | pointer known =>
      cases full with
      | false => exact placed.pointer known
      | true => simp [Scanner.reset] at known

theorem WellPlaced.savePointer (placed : scanner.WellPlaced) (name : String) :
    (scanner.savePointer name).value.WellPlaced := by
  intro cursor stored
  cases stored with
  | cursor => exact placed.cursor
  | undoCursor => exact placed.undoCursor
  | @pointer wanted saved known =>
      rcases Table.find?_insert_cases known with rfl | earlier
      · exact placed.cursor
      · exact placed.pointer earlier

/-- A scanner with the same cursors in the same text is as well placed. -/
theorem WellPlaced.of_eq (placed : scanner.WellPlaced) (text_eq : changed.text = scanner.text)
    (cursor_eq : changed.cursor = scanner.cursor)
    (undoCursor_eq : changed.undoCursor = scanner.undoCursor)
    (pointers_eq : changed.pointers = scanner.pointers) : changed.WellPlaced := by
  intro cursor stored
  rw [text_eq]
  cases stored with
  | cursor =>
      rw [cursor_eq]
      exact placed.cursor
  | undoCursor =>
      rw [undoCursor_eq]
      exact placed.undoCursor
  | pointer known =>
      rw [pointers_eq] at known
      exact placed.pointer known

theorem Change.wellPlaced (change : Change scanner changed) (placed : scanner.WellPlaced) :
    changed.WellPlaced := by
  cases change with
  | moveBy distance =>
      rw [moveBy_eq placed]
      exact placed.moveCursor (placed.cursor.departing.putAt (Nat.min_le_right _ _))
  | moveTo position =>
      rw [moveTo_eq placed]
      exact placed.moveCursor (placed.cursor.departing.putAt (Nat.min_le_right _ _))
  | advanceOver matched =>
      rw [value_advanceOver placed]
      exact placed.afterMatch matched
  | undo => exact placed.undo
  | reset full => exact placed.reset full
  | savePointer name => exact placed.savePointer name
  | loadPointer known => exact placed.moveCursor (placed.pointer known)
  | _ =>
      -- the remaining changes concern registries, data and selections
      exact placed.of_eq rfl rfl rfl rfl

theorem Reachable.wellPlaced {text : String} (reachable : Reachable text scanner) :
    scanner.WellPlaced :=
  reachable.invariant (new_wellPlaced text) Change.wellPlaced

/-! ## What follows for the text around the cursor -/

theorem WellPlaced.scannedText_eq (placed : scanner.WellPlaced) :
    scanner.scannedText.toList = scanner.text.toList.take scanner.cursor.pos := by
  rw [scannedText, String.toList_ofList, placed.cursor.before_eq]

theorem WellPlaced.unscannedText_eq (placed : scanner.WellPlaced) :
    scanner.unscannedText.toList = scanner.text.toList.drop scanner.cursor.pos := by
  rw [unscannedText, String.toList_ofList, placed.cursor.after_eq]

theorem WellPlaced.length_scannedText (placed : scanner.WellPlaced) :
    scanner.scannedText.length = scanner.cursor.pos := by
  rw [← String.length_toList, placed.scannedText_eq, List.length_take]
  exact Nat.min_eq_left placed.cursor.pos_le

theorem scannedText_append_unscannedText (scanner : Scanner) :
    scanner.scannedText ++ scanner.unscannedText = scanner.text := by
  rw [← String.toList_inj, String.toList_append, scannedText, unscannedText,
    String.toList_ofList, String.toList_ofList]
  exact takeBytes_append_dropBytes _ _

theorem WellPlaced.isAtEnd_iff (placed : scanner.WellPlaced) :
    scanner.isAtEnd = true ↔ scanner.unscannedText = "" := by
  have within := placed.cursor.pos_le
  rw [← String.toList_eq_nil_iff, placed.unscannedText_eq, List.drop_eq_nil_iff, isAtEnd,
    beq_iff_eq, ← String.length_toList]
  omega

/-- Whatever is done to a scanner, its text stays and every cursor it stores is
within the text, with an offset that is the byte length of the characters before
it.  So each cut at a stored offset is between two characters, and the cursor
splits the text at its position. -/
theorem stored_cursors_lie_in_text {text : String} {scanner : Scanner}
    (reachable : Reachable text scanner) :
    scanner.text = text ∧
    (∀ cursor, scanner.Stores cursor →
      cursor.pos ≤ text.length ∧ cursor.lastPos ≤ text.length ∧
      cursor.offset = (String.ofList (text.toList.take cursor.pos)).utf8ByteSize ∧
      String.Pos.Raw.IsValid text ⟨cursor.offset⟩ ∧
      cursor.before text.toList = text.toList.take cursor.pos ∧
      cursor.after text.toList = text.toList.drop cursor.pos) ∧
    scanner.scannedText ++ scanner.unscannedText = text ∧
    scanner.scannedText.length = scanner.cursor.pos ∧
    (scanner.isAtEnd = true ↔ scanner.unscannedText = "") := by
  have placed := reachable.wellPlaced
  obtain rfl := reachable.text_eq
  refine ⟨rfl, ?_, scanner.scannedText_append_unscannedText, placed.length_scannedText,
    placed.isAtEnd_iff⟩
  intro cursor stored
  have liesIn := placed cursor stored
  rw [← String.length_toList]
  exact ⟨liesIn.pos_le, liesIn.lastPos_le,
    liesIn.offset_eq.trans (byteLength_eq_utf8ByteSize _), liesIn.offset_isValid,
    liesIn.before_eq, liesIn.after_eq⟩

/-- A comparator that finds what is not there leads to the end of the text. -/
theorem stored_cursors_lie_in_text_of_absent_match :
    let absent : ComparisonMode :=
      { literal := fun _ _ => some "not in the text", pattern := fun _ _ => none }
    let scanner := (new "añb€c").performAll (callWithin 1)
      [⟨_, .moveBy 4⟩, ⟨_, .savePointer "here"⟩, ⟨_, .addComparisonMode "absent" absent⟩,
        ⟨_, .setComparisonMode "absent"⟩, ⟨_, .scanLiteral "x"⟩,
        ⟨_, .moveBy (-9223372036854775808)⟩, ⟨_, .loadPointer "here"⟩]
    scanner.cursor = { pos := 4, lastPos := 0, lastMatch := none, offset := 7 } ∧
      scanner.undoCursor =
        { pos := 0, lastPos := 5, lastMatch := some "not in the text", offset := 0 } ∧
      (∀ cursor, scanner.Stores cursor → String.Pos.Raw.IsValid "añb€c" ⟨cursor.offset⟩) ∧
      scanner.scannedText ++ scanner.unscannedText = "añb€c" := by
  intro absent scanner
  have reachable : Reachable "añb€c" scanner := Reachable.new.performAll 1 _
  rcases stored_cursors_lie_in_text reachable with ⟨_, stored, around, _, _⟩
  refine ⟨?_, ?_, ?_, around⟩
  · decide +kernel
  · decide +kernel
  · intro cursor stores
    exact (stored cursor stores).2.2.2.1

end Scanner

end TextScanner
