import TextScanner.Proofs.Placement

/-!
# Movements in machine words

The counts of a cursor have no greatest value, but on a machine they are words of a fixed
size, and so are the distances that it is moved by.  This module walks through both
movements as a machine does, with signed and unsigned words, over the list of characters
and their byte indices.  Every step whose exact result is no word has no result, also
where the greatest word could be taken in its place.

In a text whose length is a signed word, no step is without a result, and the walk ends
where the movements end (`Cursor.shiftIn?_eq`, `Cursor.seekIn?_eq`).  With the closed
forms of `TextScanner.Proofs.Placement` they clamp exactly: neither the least signed
word, whose negation is none, nor a distance beyond the ends of the text is an
exception.
-/

namespace TextScanner

/-- The words of a machine: signed ones from `-half` on and below `half`, unsigned ones
from zero on and below twice that. -/
structure Words where
  half : Nat
  positive : 0 < half

namespace Words

/-- Words of sixty-four bits. -/
def bits64 : Words where
  half := Nat.pow 2 63
  positive := by decide

/-- Whether a number is a signed word. -/
def Signed (words : Words) (number : Int) : Prop :=
  -words.half ≤ number ∧ number < words.half

instance (words : Words) (number : Int) : Decidable (words.Signed number) :=
  inferInstanceAs (Decidable (_ ∧ _))

/-- An exact result as a signed word, if it is one. -/
def signed? (words : Words) (exact : Int) : Option Int :=
  if words.Signed exact then some exact else none

/-- An exact result as an unsigned word, if it is one. -/
def unsigned? (words : Words) (exact : Int) : Option Nat :=
  if 0 ≤ exact ∧ exact < 2 * words.half then some exact.toNat else none

theorem signed?_eq {words : Words} {exact : Int} (fits : words.Signed exact) :
    words.signed? exact = some exact :=
  if_pos fits

theorem unsigned?_eq {words : Words} {exact : Int} {result : Nat} (same : exact = result)
    (fits : result < 2 * words.half) : words.unsigned? exact = some result := by
  subst same
  rw [unsigned?, if_pos ⟨Int.natCast_nonneg _, by exact_mod_cast fits⟩, Int.toNat_natCast]

end Words

/-! ## Characters and their byte indices -/

/-- The characters of a text with the byte index of each, where the first has the index
`start`. -/
def charIndices : (start : Nat) → List Char → List (Nat × Char)
  | _, [] => []
  | start, char :: rest => (start, char) :: charIndices (start + char.utf8Size) rest

/-- The text before a byte offset, if that is a boundary between two characters. -/
def sliceTo? (offset : Nat) (chars : List Char) : Option (List Char) :=
  if byteLength (takeBytes offset chars) = offset then some (takeBytes offset chars) else none

/-- The text from a byte offset on, if that is a boundary between two characters. -/
def sliceFrom? (offset : Nat) (chars : List Char) : Option (List Char) :=
  if byteLength (takeBytes offset chars) = offset then some (dropBytes offset chars) else none

theorem length_charIndices (start : Nat) (chars : List Char) :
    (charIndices start chars).length = chars.length := by
  induction chars generalizing start with
  | nil => rfl
  | cons char rest ih => simp [charIndices, ih]

theorem map_fst_getElem?_charIndices (start count : Nat) (chars : List Char) :
    ((charIndices start chars)[count]?).map Prod.fst =
      if count < chars.length then some (start + byteLength (chars.take count)) else none := by
  induction chars generalizing start count with
  | nil => simp [charIndices]
  | cons char rest ih =>
      cases count with
      | zero => simp [charIndices]
      | succ count => simp [charIndices, ih, Nat.add_assoc]

/-- The byte index of a character, or the end of the text if there are not so many, is the
length of what is before. -/
theorem getD_index_charIndices (count : Nat) (chars : List Char) :
    (((charIndices 0 chars)[count]?).map Prod.fst).getD (byteLength chars) =
      byteLength (chars.take count) := by
  rw [map_fst_getElem?_charIndices]
  split
  · simp
  · rename_i beyond
    rw [List.take_of_length_le (Nat.not_lt.mp beyond), Option.getD_none]

/-- The last of so many characters from the end is counted from the start. -/
theorem getLast?_take_reverse {α : Type} (entries : List α) (count : Nat) :
    (entries.reverse.take count).getLast? = entries[entries.length - count]? := by
  rw [List.take_reverse, List.getLast?_reverse, List.head?_drop]

/-- A text has at least as many bytes as characters. -/
theorem length_le_byteLength (chars : List Char) : chars.length ≤ byteLength chars := by
  induction chars with
  | nil => exact Nat.le_refl 0
  | cons char rest ih =>
      have positive := char.utf8Size_pos
      rw [List.length_cons, byteLength_cons]
      omega

theorem byteLength_take_le (count : Nat) (chars : List Char) :
    byteLength (chars.take count) ≤ byteLength chars := by
  have parts := byteLength_append (chars.take count) (chars.drop count)
  rw [List.take_append_drop] at parts
  omega

namespace Cursor

/-! ## The walk -/

/-- Move by a distance, in words. -/
def shiftIn? (words : Words) (chars : List Char) (distance : Int) (cursor : Cursor) :
    Option Cursor := do
  let count ← words.unsigned? distance.natAbs
  if 0 ≤ distance then
    let room ← words.unsigned? (chars.length - cursor.pos)
    let steps := min count room
    let rest ← sliceFrom? cursor.offset chars
    let passed := (((charIndices 0 rest)[steps]?).map Prod.fst).getD (byteLength rest)
    let pos ← words.unsigned? (cursor.pos + steps)
    let offset ← words.unsigned? (cursor.offset + passed)
    return { cursor with pos, offset }
  else
    let steps := min count cursor.pos
    let passed ← sliceTo? cursor.offset chars
    let last := ((charIndices 0 passed).reverse.take steps).getLast?
    let pos ← words.unsigned? (cursor.pos - steps)
    return { cursor with pos, offset := (last.map Prod.fst).getD cursor.offset }

/-- Move to a position, in words.  Negative positions are taken for the start. -/
def seekIn? (words : Words) (chars : List Char) (position : Int) (cursor : Cursor) :
    Option Cursor := do
  let target := min ((words.unsigned? position).getD 0) chars.length
  if cursor.pos ≤ target then
    let ahead ← words.unsigned? (target - cursor.pos)
    cursor.shiftIn? words chars (← words.signed? ahead)
  else
    let back ← words.unsigned? (cursor.pos - target)
    let distance ← words.signed? back
    cursor.shiftIn? words chars (← words.signed? (-distance))

variable {words : Words} {chars : List Char} {cursor : Cursor}

theorem PointsInto.sliceTo?_eq (points : cursor.PointsInto chars) :
    sliceTo? cursor.offset chars = some (chars.take cursor.pos) := by
  rw [sliceTo?, points.offset_eq, takeBytes_byteLength_take, if_pos rfl]

theorem PointsInto.sliceFrom?_eq (points : cursor.PointsInto chars) :
    sliceFrom? cursor.offset chars = some (chars.drop cursor.pos) := by
  rw [sliceFrom?, points.offset_eq, takeBytes_byteLength_take, dropBytes_byteLength_take,
    if_pos rfl]

theorem forwardIn?_eq (fits : byteLength chars < words.half) (points : cursor.PointsInto chars)
    {distance : Int} (word : words.Signed distance) (ahead : 0 ≤ distance) :
    cursor.shiftIn? words chars distance = some (cursor.forward chars distance.natAbs) := by
  have within := points.pos_le
  have counts := length_le_byteLength chars
  rcases word with ⟨_, below⟩
  let steps := min distance.natAbs (chars.length - cursor.pos)
  have count : words.unsigned? distance.natAbs = some distance.natAbs :=
    Words.unsigned?_eq rfl (by omega)
  have room : words.unsigned? (chars.length - cursor.pos) = some (chars.length - cursor.pos) :=
    Words.unsigned?_eq (by omega) (by omega)
  have pos : words.unsigned? (cursor.pos + steps) = some (cursor.pos + steps) :=
    Words.unsigned?_eq (by omega) (by omega)
  -- what was passed ends within the text, so the new offset is a word
  have landing : cursor.offset + byteLength ((chars.drop cursor.pos).take steps) ≤
      byteLength chars := by
    rw [points.offset_eq, ← byteLength_append, ← List.take_add]
    exact byteLength_take_le _ _
  have offset : words.unsigned?
      (cursor.offset + byteLength ((chars.drop cursor.pos).take steps)) =
        some (cursor.offset + byteLength ((chars.drop cursor.pos).take steps)) :=
    Words.unsigned?_eq (by omega) (by omega)
  simp only [shiftIn?, count, Option.bind_eq_bind, Option.bind_some, if_pos ahead, room,
    points.sliceFrom?_eq, getD_index_charIndices]
  rw [pos, Option.bind_some, offset, Option.bind_some, forward, points.after_eq]
  rfl

theorem backwardIn?_eq (fits : byteLength chars < words.half) (points : cursor.PointsInto chars)
    {distance : Int} (word : words.Signed distance) (behind : ¬0 ≤ distance) :
    cursor.shiftIn? words chars distance = some (cursor.backward chars distance.natAbs) := by
  have within := points.pos_le
  have counts := length_le_byteLength chars
  have half := words.positive
  rcases word with ⟨above, _⟩
  let steps := min distance.natAbs cursor.pos
  have count : words.unsigned? distance.natAbs = some distance.natAbs :=
    Words.unsigned?_eq rfl (by omega)
  have pos : words.unsigned? (cursor.pos - steps) = some (cursor.pos - steps) :=
    Words.unsigned?_eq (by omega) (by omega)
  have last : ((((charIndices 0 (chars.take cursor.pos)).reverse.take steps).getLast?).map
      Prod.fst).getD cursor.offset =
        byteLength ((chars.take cursor.pos).take ((chars.take cursor.pos).length - steps)) := by
    rw [getLast?_take_reverse, length_charIndices, points.offset_eq, getD_index_charIndices]
  simp only [shiftIn?, count, Option.bind_eq_bind, Option.bind_some, if_neg behind,
    points.sliceTo?_eq]
  rw [pos, Option.bind_some, last, backward, points.before_eq]
  rfl

/-- In a text whose length is a signed word, a movement by a signed word is a walk in
words. -/
theorem shiftIn?_eq (fits : byteLength chars < words.half) (points : cursor.PointsInto chars)
    {distance : Int} (word : words.Signed distance) :
    cursor.shiftIn? words chars distance = some (cursor.shift chars distance) := by
  by_cases ahead : 0 ≤ distance
  · rw [forwardIn?_eq fits points word ahead, shift, if_pos ahead]
  · rw [backwardIn?_eq fits points word ahead, shift, if_neg ahead]

/-- The walk to a position never needs a distance that is no signed word. -/
theorem seekIn?_eq (fits : byteLength chars < words.half) (points : cursor.PointsInto chars)
    {position : Int} (word : words.Signed position) :
    cursor.seekIn? words chars position = some (cursor.seek chars position) := by
  have within := points.pos_le
  have counts := length_le_byteLength chars
  rcases word with ⟨_, below⟩
  have start : (words.unsigned? position).getD 0 = position.toNat := by
    by_cases negative : position < 0
    · rw [Words.unsigned?, if_neg (by omega), Option.getD_none]
      omega
    · have exact : position = position.toNat := by omega
      rw [Words.unsigned?_eq exact (by omega), Option.getD_some]
  simp only [seekIn?, seek, start, Option.bind_eq_bind]
  have inText : min position.toNat chars.length ≤ chars.length := Nat.min_le_right _ _
  generalize min position.toNat chars.length = target at *
  by_cases ahead : cursor.pos ≤ target
  · have distance : words.unsigned? (target - cursor.pos) = some (target - cursor.pos) :=
      Words.unsigned?_eq (by omega) (by omega)
    have signed : words.Signed (target - cursor.pos : Nat) := by
      constructor <;> omega
    rw [if_pos ahead, if_pos ahead, distance, Option.bind_some, Words.signed?_eq signed,
      Option.bind_some, shiftIn?_eq fits points signed, shift, if_pos (Int.natCast_nonneg _),
      Int.natAbs_natCast]
  · have distance : words.unsigned? (cursor.pos - target) = some (cursor.pos - target) :=
      Words.unsigned?_eq (by omega) (by omega)
    have signed : words.Signed (cursor.pos - target : Nat) := by
      constructor <;> omega
    have negated : words.Signed (-(cursor.pos - target : Nat)) := by
      constructor <;> omega
    rw [if_neg ahead, if_neg ahead, distance, Option.bind_some, Words.signed?_eq signed,
      Option.bind_some, Words.signed?_eq negated, Option.bind_some,
      shiftIn?_eq fits points negated, shift, if_neg (by omega), Int.natAbs_neg,
      Int.natAbs_natCast]

/-! ## Clamping -/

/-- The position of a text that is nearest to a number. -/
def clamped (chars : List Char) (number : Int) : Nat :=
  (max 0 (min number chars.length)).toNat

theorem clamped_eq (chars : List Char) (number : Int) :
    clamped chars number = min number.toNat chars.length := by
  rw [clamped]
  omega

theorem putAt_putAt (cursor : Cursor) (chars : List Char) (first second : Nat) :
    (cursor.putAt chars first).putAt chars second = cursor.putAt chars second :=
  rfl

theorem PointsInto.putAt_clamped (cursor : Cursor) (chars : List Char) (number : Int) :
    (cursor.putAt chars (clamped chars number)).PointsInto chars where
  pos_le := by
    rw [putAt, clamped_eq]
    exact Nat.min_le_right _ _
  offset_eq := rfl

theorem PointsInto.putAt_pos (points : cursor.PointsInto chars) :
    cursor.putAt chars cursor.pos = cursor := by
  rw [putAt, ← points.offset_eq]

/-- In a text whose length is a signed word, a cursor that points into the text is moved by
any signed word to the nearest position of the text, and so it is moved to any signed word;
its offset becomes that of the position and nothing else changes.  Both walks make it in
words, with no step whose exact result is none.  The end of a movement to a position does
not depend on where it starts, and a movement by a distance that stays in the text is taken
back by the opposite distance, which is a word. -/
theorem movements_clamp_exactly {words : Words} {chars : List Char} {cursor : Cursor}
    (fits : byteLength chars < words.half) (points : cursor.PointsInto chars) {number : Int}
    (word : words.Signed number) :
    let shifted := cursor.putAt chars (clamped chars (cursor.pos + number))
    let sought := cursor.putAt chars (clamped chars number)
    (cursor.shift chars number = shifted ∧ cursor.shiftIn? words chars number = some shifted) ∧
    (cursor.seek chars number = sought ∧ cursor.seekIn? words chars number = some sought) ∧
    (∀ other : Cursor, other.PointsInto chars →
      (other.seek chars number).pos = sought.pos ∧
      (other.seek chars number).offset = sought.offset) ∧
    (shifted.pos = cursor.pos + number →
      words.signed? (-number) = some (-number) ∧ shifted.shift chars (-number) = cursor ∧
      shifted.shiftIn? words chars (-number) = some cursor) := by
  intro shifted sought
  have shiftEnd : cursor.shift chars number = shifted := by
    rw [shift_eq points, ← clamped_eq]
  have seekEnd (other : Cursor) (into : other.PointsInto chars) :
      other.seek chars number = other.putAt chars (clamped chars number) := by
    rw [seek_eq into, clamped_eq]
  refine ⟨⟨shiftEnd, ?_⟩, ⟨seekEnd cursor points, ?_⟩, ?_, ?_⟩
  · rw [shiftIn?_eq fits points word, shiftEnd]
  · rw [seekIn?_eq fits points word, seekEnd cursor points]
  · intro other into
    rw [seekEnd other into]
    exact ⟨rfl, rfl⟩
  · intro inside
    have within := points.pos_le
    have counts := length_le_byteLength chars
    have landing : shifted.pos ≤ chars.length :=
      (PointsInto.putAt_clamped cursor chars (cursor.pos + number)).pos_le
    -- the least signed word would have left the text
    have opposite : words.Signed (-number) := by
      rcases word with ⟨above, below⟩
      constructor <;> omega
    have into : shifted.PointsInto chars := .putAt_clamped cursor chars _
    have back : shifted.shift chars (-number) = cursor := by
      have home : clamped chars (shifted.pos + -number) = cursor.pos := by
        rw [inside, clamped_eq]
        omega
      rw [shift_eq into, ← clamped_eq, home, putAt_putAt]
      exact points.putAt_pos
    exact ⟨Words.signed?_eq opposite, back, by rw [shiftIn?_eq fits into opposite, back]⟩

/-- The least word of sixty-four bits moves to the start, and two characters of several
bytes are passed to and fro. -/
theorem movements_clamp_exactly_of_least_word :
    let cursor : Cursor := { pos := 4, lastPos := 9, lastMatch := some "b", offset := 7 }
    let chars := "añb€c".toList
    let least : Int := -(Nat.pow 2 63 : Nat)
    cursor.shiftIn? .bits64 chars least = some { cursor with pos := 0, offset := 0 } ∧
      cursor.seekIn? .bits64 chars least = some { cursor with pos := 0, offset := 0 } ∧
      cursor.shiftIn? .bits64 chars (-2) = some { cursor with pos := 2, offset := 3 } ∧
      ({ cursor with pos := 2, offset := 3 } : Cursor).shiftIn? .bits64 chars 2 =
        some cursor := by
  intro cursor chars least
  have fits : byteLength chars < Words.bits64.half := by decide
  have points : cursor.PointsInto chars := ⟨by decide, by decide⟩
  have leastWord : Words.bits64.Signed least := by decide
  have smallWord : Words.bits64.Signed (-2) := by decide
  rcases movements_clamp_exactly fits points leastWord with ⟨⟨_, shifted⟩, ⟨_, sought⟩, _, _⟩
  rcases movements_clamp_exactly fits points smallWord with ⟨⟨_, back⟩, _, _, returns⟩
  exact ⟨shifted, sought, back, (returns (by decide)).2.2⟩

end Cursor

end TextScanner
