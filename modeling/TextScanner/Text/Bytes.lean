/-!
# Characters and their UTF-8 bytes

A cursor counts characters and keeps the byte offset beside the count.  This
module measures a text in bytes and cuts it at a byte offset.  Cutting at the
length of a beginning gives that beginning and the rest
(`takeBytes_byteLength_append`, `dropBytes_byteLength_append`), and the two
parts of any cut make up the text (`takeBytes_append_dropBytes`).
-/

namespace TextScanner

/-- The number of bytes of a text in UTF-8. -/
def byteLength : List Char → Nat
  | [] => 0
  | char :: rest => char.utf8Size + byteLength rest

/-- The longest beginning of a text that fits into a number of bytes. -/
def takeBytes : Nat → List Char → List Char
  | _, [] => []
  | budget, char :: rest =>
      if char.utf8Size ≤ budget then char :: takeBytes (budget - char.utf8Size) rest
      else []

/-- What `takeBytes` leaves. -/
def dropBytes : Nat → List Char → List Char
  | _, [] => []
  | budget, char :: rest =>
      if char.utf8Size ≤ budget then dropBytes (budget - char.utf8Size) rest
      else char :: rest

@[simp]
theorem byteLength_nil : byteLength [] = 0 :=
  rfl

@[simp]
theorem byteLength_cons (char : Char) (rest : List Char) :
    byteLength (char :: rest) = char.utf8Size + byteLength rest :=
  rfl

@[simp]
theorem byteLength_append (left right : List Char) :
    byteLength (left ++ right) = byteLength left + byteLength right := by
  induction left with
  | nil => simp
  | cons char rest ih => simp [ih, Nat.add_assoc]

theorem takeBytes_append_dropBytes (budget : Nat) (chars : List Char) :
    takeBytes budget chars ++ dropBytes budget chars = chars := by
  induction chars generalizing budget with
  | nil => rfl
  | cons char rest ih =>
      by_cases fits : char.utf8Size ≤ budget
      · simp [takeBytes, dropBytes, fits, ih]
      · simp [takeBytes, dropBytes, fits]

@[simp]
theorem takeBytes_zero (chars : List Char) : takeBytes 0 chars = [] := by
  cases chars with
  | nil => rfl
  | cons char rest =>
      have positive := char.utf8Size_pos
      simp [takeBytes, Nat.pos_iff_ne_zero.1 positive]

@[simp]
theorem dropBytes_zero (chars : List Char) : dropBytes 0 chars = chars := by
  simpa using takeBytes_append_dropBytes 0 chars

theorem takeBytes_byteLength_append (left right : List Char) :
    takeBytes (byteLength left) (left ++ right) = left := by
  induction left with
  | nil => simp
  | cons char rest ih => simp [takeBytes, ih]

theorem dropBytes_byteLength_append (left right : List Char) :
    dropBytes (byteLength left) (left ++ right) = right := by
  induction left with
  | nil => simp
  | cons char rest ih => simp [dropBytes, ih]

end TextScanner
