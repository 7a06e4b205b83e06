import TextScanner.Cursor

/-!
# Cursors that lie in their text

A cursor keeps two counts of the same place, in characters and in bytes.  It
lies in a text when neither of its positions is behind the end and its offset
is the byte length of the characters before it (`Cursor.LiesIn`).

For such cursors every movement has a closed form: the cursor is put at a
position that is computed from the distance and the length of the text alone
(`Cursor.shift_eq`, `Cursor.seek_eq`).  The walk over the bytes has gone from
these equations, and with it every question of where a cut falls.
-/

namespace TextScanner

/-- The byte length of a list of characters is that of its text. -/
theorem byteLength_eq_utf8ByteSize (chars : List Char) :
    byteLength chars = (String.ofList chars).utf8ByteSize := by
  induction chars with
  | nil => rfl
  | cons char rest ih =>
      have split : String.ofList (char :: rest) =
          String.singleton char ++ String.ofList rest := by
        rw [← String.toList_inj]
        simp
      rw [split, String.utf8ByteSize_append, String.utf8ByteSize_singleton,
        byteLength_cons, ih]

theorem takeBytes_byteLength_take (chars : List Char) (count : Nat) :
    takeBytes (byteLength (chars.take count)) chars = chars.take count := by
  have cut := takeBytes_byteLength_append (chars.take count) (chars.drop count)
  rwa [List.take_append_drop] at cut

theorem dropBytes_byteLength_take (chars : List Char) (count : Nat) :
    dropBytes (byteLength (chars.take count)) chars = chars.drop count := by
  have cut := dropBytes_byteLength_append (chars.take count) (chars.drop count)
  rwa [List.take_append_drop] at cut

namespace Cursor

/-- Both positions of a cursor are within a text, and its two counts of the
characters and of the bytes before it agree. -/
structure LiesIn (cursor : Cursor) (chars : List Char) : Prop where
  pos_le : cursor.pos ≤ chars.length
  lastPos_le : cursor.lastPos ≤ chars.length
  offset_eq : cursor.offset = byteLength (chars.take cursor.pos)

/-- The position of a cursor is within a text, and its two counts agree; where the latest
movement started does not matter. -/
structure PointsInto (cursor : Cursor) (chars : List Char) : Prop where
  pos_le : cursor.pos ≤ chars.length
  offset_eq : cursor.offset = byteLength (chars.take cursor.pos)

/-- A cursor put at a position of a text. -/
def putAt (chars : List Char) (position : Nat) (cursor : Cursor) : Cursor :=
  { cursor with
    pos := position
    offset := byteLength (chars.take position) }

variable {chars : List Char} {cursor : Cursor}

theorem start_liesIn (chars : List Char) : start.LiesIn chars where
  pos_le := Nat.zero_le _
  lastPos_le := Nat.zero_le _
  offset_eq := rfl

theorem LiesIn.pointsInto (liesIn : cursor.LiesIn chars) : cursor.PointsInto chars where
  pos_le := liesIn.pos_le
  offset_eq := liesIn.offset_eq

theorem PointsInto.before_eq (points : cursor.PointsInto chars) :
    cursor.before chars = chars.take cursor.pos := by
  rw [before, points.offset_eq, takeBytes_byteLength_take]

theorem PointsInto.after_eq (points : cursor.PointsInto chars) :
    cursor.after chars = chars.drop cursor.pos := by
  rw [after, points.offset_eq, dropBytes_byteLength_take]

theorem LiesIn.before_eq (liesIn : cursor.LiesIn chars) :
    cursor.before chars = chars.take cursor.pos :=
  liesIn.pointsInto.before_eq

theorem LiesIn.after_eq (liesIn : cursor.LiesIn chars) :
    cursor.after chars = chars.drop cursor.pos :=
  liesIn.pointsInto.after_eq

/-- The offset of a cursor is a boundary between two characters. -/
theorem LiesIn.offset_isValid {text : String} (liesIn : cursor.LiesIn text.toList) :
    String.Pos.Raw.IsValid text ⟨cursor.offset⟩ := by
  rw [String.Pos.Raw.isValid_iff_exists_append]
  refine ⟨String.ofList (text.toList.take cursor.pos),
    String.ofList (text.toList.drop cursor.pos), ?_, ?_⟩
  · rw [← String.ofList_append, List.take_append_drop, String.ofList_toList]
  · rw [liesIn.offset_eq, byteLength_eq_utf8ByteSize]
    rfl

theorem LiesIn.putAt (liesIn : cursor.LiesIn chars) {position : Nat}
    (within : position ≤ chars.length) : (cursor.putAt chars position).LiesIn chars where
  pos_le := within
  lastPos_le := liesIn.lastPos_le
  offset_eq := rfl

/-- Remembering the present position keeps a cursor in its text. -/
theorem LiesIn.departing (liesIn : cursor.LiesIn chars) :
    ({ cursor with lastPos := cursor.pos } : Cursor).LiesIn chars where
  pos_le := liesIn.pos_le
  lastPos_le := liesIn.pos_le
  offset_eq := liesIn.offset_eq

/-! ## Closed forms of the movements -/

theorem forward_eq (points : cursor.PointsInto chars) (count : Nat) :
    cursor.forward chars count =
      cursor.putAt chars (min (cursor.pos + count) chars.length) := by
  have within := points.pos_le
  have target : cursor.pos + min count (chars.length - cursor.pos) =
      min (cursor.pos + count) chars.length := by omega
  simp only [forward, Cursor.putAt, points.after_eq, points.offset_eq, target]
  rw [← byteLength_append, ← List.take_add, target]

theorem backward_eq (points : cursor.PointsInto chars) (count : Nat) :
    cursor.backward chars count = cursor.putAt chars (cursor.pos - count) := by
  have within := points.pos_le
  have target : cursor.pos - min count cursor.pos = cursor.pos - count := by omega
  have passed : (chars.take cursor.pos).length - min count cursor.pos =
      cursor.pos - count := by
    rw [List.length_take]
    omega
  simp only [backward, Cursor.putAt, points.before_eq, target, passed]
  rw [List.take_take, Nat.min_eq_left (Nat.sub_le _ _)]

/-- A relative movement stops at both ends of the text. -/
theorem shift_eq (points : cursor.PointsInto chars) (distance : Int) :
    cursor.shift chars distance =
      cursor.putAt chars (min (cursor.pos + distance).toNat chars.length) := by
  have within := points.pos_le
  by_cases ahead : 0 ≤ distance
  · have target : min (cursor.pos + distance.natAbs) chars.length =
        min (cursor.pos + distance).toNat chars.length := by omega
    rw [shift, if_pos ahead, forward_eq points, target]
  · have target : cursor.pos - distance.natAbs =
        min (cursor.pos + distance).toNat chars.length := by omega
    rw [shift, if_neg ahead, backward_eq points, target]

/-- An absolute movement ends at the nearest position of the text. -/
theorem seek_eq (points : cursor.PointsInto chars) (position : Int) :
    cursor.seek chars position = cursor.putAt chars (min position.toNat chars.length) := by
  have within := points.pos_le
  by_cases ahead : cursor.pos ≤ min position.toNat chars.length
  · have target : min (cursor.pos + (min position.toNat chars.length - cursor.pos))
        chars.length = min position.toNat chars.length := by omega
    rw [seek, if_pos ahead, forward_eq points, target]
  · have target : cursor.pos - (cursor.pos - min position.toNat chars.length) =
        min position.toNat chars.length := by omega
    rw [seek, if_neg ahead, backward_eq points, target]

end Cursor

end TextScanner
