import Mathlib.Data.List.Count
import TextScanner.View

/-!
# Texts on lines

A dump is laid out on lines, and the texts it shows are meant to stay on theirs.  A text
does if no character of it ends or disturbs a line.  Escaped texts are such texts
(`unbroken_quote`), and so are numbers and displayed values, however deep
(`Value.unbroken_displayChars`).

A text that is shown as it is brings its own breaks along.  So what breaks the lines of a
dump are the newlines it was laid out with and the breaks of the texts it shows as they
are (`LaidOut`).  This is so for what is put together of two such parts
(`LaidOut.append`), and it decides how many lines there are and whether anything else
disturbs them (`LaidOut.onLines_iff`).
-/

namespace TextScanner

/-! ## Characters that break lines -/

/-- No character ends or disturbs a line. -/
def Unbroken (chars : List Char) : Prop :=
  ∀ char ∈ chars, breaksLine char = false

instance (chars : List Char) : Decidable (Unbroken chars) :=
  List.decidableBAll (fun char => breaksLine char = false) chars

@[simp]
theorem unbroken_nil : Unbroken [] :=
  List.forall_mem_nil _

@[simp]
theorem unbroken_cons {char : Char} {rest : List Char} :
    Unbroken (char :: rest) ↔ breaksLine char = false ∧ Unbroken rest :=
  List.forall_mem_cons

@[simp]
theorem unbroken_append {left right : List Char} :
    Unbroken (left ++ right) ↔ Unbroken left ∧ Unbroken right :=
  List.forall_mem_append

theorem Unbroken.of_subset {chars others : List Char} (unbroken : Unbroken chars)
    (subset : others ⊆ chars) : Unbroken others := by
  intro char member
  exact unbroken char (subset member)

theorem unbroken_replicate {char : Char} (plain : breaksLine char = false) (count : Nat) :
    Unbroken (List.replicate count char) := by
  intro repeated member
  rw [List.eq_of_mem_replicate member]
  exact plain

/-! ## Escaped texts and numbers -/

theorem breaksLine_hexDigit {digit : Nat} (small : digit < 16) :
    breaksLine (hexDigit 'A' digit) = false := by
  revert digit
  decide

theorem unbroken_fourHexDigits (code : Nat) : Unbroken (fourHexDigits 'A' code) := by
  intro char member
  simp only [fourHexDigits, List.mem_cons, List.not_mem_nil, or_false] at member
  rcases member with rfl | rfl | rfl | rfl
  all_goals exact breaksLine_hexDigit (Nat.mod_lt _ (Nat.succ_pos 15))

theorem unbroken_escapeChar (char : Char) : Unbroken (escapeChar char) := by
  unfold escapeChar
  split_ifs with _ _ _ _ _ breaking
  · decide
  · decide
  · decide
  · decide
  · decide
  · rw [unbroken_cons, unbroken_cons]
    exact ⟨rfl, rfl, unbroken_fourHexDigits char.toNat⟩
  · rw [unbroken_cons]
    exact ⟨Bool.eq_false_iff.mpr breaking, unbroken_nil⟩

/-- An escaped text stays on its line. -/
theorem unbroken_quote (text : String) : Unbroken (quote text) := by
  rw [quote, unbroken_cons, unbroken_append]
  refine ⟨rfl, ?_, by decide⟩
  intro char member
  rcases List.mem_flatMap.mp member with ⟨original, _, written⟩
  exact unbroken_escapeChar original char written

theorem breaksLine_of_isDigit {char : Char} (digit : char.isDigit = true) :
    breaksLine char = false := by
  have within : 48 ≤ char.toNat ∧ char.toNat ≤ 57 := by
    simp only [Char.isDigit, Bool.and_eq_true, decide_eq_true_eq, ge_iff_le,
      UInt32.le_iff_toNat_le] at digit
    exact digit
  have line : char ≠ '\u2028' := by
    rintro rfl
    exact absurd within (by decide)
  have paragraph : char ≠ '\u2029' := by
    rintro rfl
    exact absurd within (by decide)
  have control : isControl char = false := by
    simp only [isControl, Bool.or_eq_false_iff, Bool.and_eq_false_iff, decide_eq_false_iff_not]
    omega
  simp [breaksLine, control, line, paragraph]

theorem unbroken_toDigits (number : Nat) : Unbroken (Nat.toDigits 10 number) := by
  intro char member
  exact breaksLine_of_isDigit (Nat.isDigit_of_mem_toDigits (by decide) (by decide) member)

theorem unbroken_toString (number : Nat) : Unbroken (toString number).toList := by
  change Unbroken (String.ofList (Nat.toDigits 10 number)).toList
  rw [String.toList_ofList]
  exact unbroken_toDigits number

namespace Notation

/-- Around the point of a number stand its digits and zeros. -/
theorem unbroken_layPositional {style : Notation} (whole : Unbroken style.wholeFraction.toList)
    {digits : List Char} (unbroken : Unbroken digits) (point : Int) :
    Unbroken (style.layPositional digits point) := by
  have zeros (count : Nat) : Unbroken (List.replicate count '0') :=
    unbroken_replicate rfl count
  unfold layPositional
  split_ifs
  · rw [unbroken_append, unbroken_append]
    exact ⟨⟨by decide, zeros _⟩, unbroken⟩
  · rw [unbroken_append, unbroken_append]
    exact ⟨⟨unbroken, zeros _⟩, whole⟩
  · rw [unbroken_append, unbroken_cons]
    exact ⟨unbroken.of_subset (List.take_subset _ _), rfl,
      unbroken.of_subset (List.drop_subset _ _)⟩

theorem unbroken_write_plain (number : Float) : Unbroken (plain.write number).toList := by
  unfold write
  split
  · decide
  · rename_i negative _
    cases negative <;> decide
  · rename_i negative significand exponent _
    rw [String.toList_ofList, unbroken_append]
    constructor
    · cases negative <;> decide
    · exact unbroken_layPositional (by decide) (unbroken_toDigits _) _

end Notation

namespace Value

mutual

/-- A displayed value stays on its line. -/
theorem unbroken_displayChars (value : Value) : Unbroken value.displayChars := by
  cases value with
  | null => decide
  | boolean flag => cases flag <;> decide
  | number quantity => exact Notation.unbroken_write_plain quantity
  | string text => exact unbroken_quote text
  | array items =>
      rw [displayChars, unbroken_cons, unbroken_append]
      exact ⟨rfl, unbroken_displayItems items, by decide⟩
  | object members =>
      rw [displayChars, unbroken_cons, unbroken_append]
      exact ⟨rfl, unbroken_displayMembers members, by decide⟩

theorem unbroken_displayItems (items : List Value) : Unbroken (displayItems items) := by
  match items with
  | [] => exact unbroken_nil
  | [item] => exact unbroken_displayChars item
  | item :: next :: rest =>
      rw [displayItems, unbroken_append, unbroken_cons]
      exact ⟨unbroken_displayChars item, rfl, unbroken_displayItems (next :: rest)⟩

theorem unbroken_displayMembers (members : List (String × Value)) :
    Unbroken (displayMembers members) := by
  match members with
  | [] => exact unbroken_nil
  | [(name, value)] =>
      rw [displayMembers, unbroken_append, unbroken_cons]
      exact ⟨unbroken_quote name, rfl, unbroken_displayChars value⟩
  | (name, value) :: next :: rest =>
      rw [displayMembers, unbroken_append, unbroken_cons, unbroken_append, unbroken_cons]
      exact ⟨unbroken_quote name, rfl, unbroken_displayChars value, rfl,
        unbroken_displayMembers (next :: rest)⟩

end

theorem unbroken_display (value : Value) : Unbroken value.display.toList := by
  rw [display, String.toList_ofList]
  exact value.unbroken_displayChars

end Value

/-! ## Layouts -/

/-- The lines of a text: one more than it has newlines. -/
def lineCount (text : String) : Nat :=
  text.toList.count '\n' + 1

/-- A text stands on so many lines, and nothing but the newlines between them ends or
disturbs a line. -/
structure OnLines (lines : Nat) (text : String) : Prop where
  lineCount_eq : lineCount text = lines
  eq_newline : ∀ char ∈ text.toList, breaksLine char = true → char = '\n'

/-- The characters of texts that end or disturb lines. -/
def breaksOf (texts : List String) : List Char :=
  texts.flatMap fun text => text.toList.filter breaksLine

theorem mem_breaksOf_iff {texts : List String} {char : Char} :
    char ∈ breaksOf texts ↔ ∃ text ∈ texts, char ∈ text.toList ∧ breaksLine char = true := by
  simp only [breaksOf, List.mem_flatMap, List.mem_filter]

theorem breaksOf_eq_nil_iff {texts : List String} :
    breaksOf texts = [] ↔ ∀ text ∈ texts, Unbroken text.toList := by
  simp only [breaksOf, List.flatMap_eq_nil_iff, List.filter_eq_nil_iff, Bool.not_eq_true, Unbroken]

/-- The newlines among the breaks of texts are those of the texts. -/
theorem count_newline_breaksOf (texts : List String) :
    (breaksOf texts).count '\n' = (String.join texts).toList.count '\n' := by
  have ofText (text : String) :
      (text.toList.filter breaksLine).count '\n' = text.toList.count '\n' :=
    List.count_filter rfl
  induction texts with
  | nil => rfl
  | cons text rest ih =>
      rw [String.join_cons, String.toList_append, List.count_append, ← ih, ← ofText text,
        ← List.count_append]
      rfl

/-- A text was laid out with so many newlines and shows the given texts as they are: its
breaks are those newlines and the breaks of the shown texts. -/
def LaidOut (newlines : Nat) (shown : List String) (text : String) : Prop :=
  (text.toList.filter breaksLine).Perm (List.replicate newlines '\n' ++ breaksOf shown)

theorem laidOut_of_unbroken {text : String} (unbroken : Unbroken text.toList) :
    LaidOut 0 [] text := by
  have none : text.toList.filter breaksLine = [] := by
    simpa only [List.filter_eq_nil_iff, Bool.not_eq_true, Unbroken] using unbroken
  rw [LaidOut, none]
  exact .nil

/-- A text that is shown as it is. -/
theorem laidOut_self (text : String) : LaidOut 0 [text] text := by
  have own : breaksOf [text] = text.toList.filter breaksLine := List.flatMap_singleton _ _
  rw [LaidOut, own, List.replicate_zero, List.nil_append]

theorem laidOut_newline : LaidOut 1 [] "\n" :=
  .refl _

theorem laidOut_quote (text : String) : LaidOut 0 [] (String.ofList (quote text)) := by
  apply laidOut_of_unbroken
  rw [String.toList_ofList]
  exact unbroken_quote text

theorem laidOut_toString (number : Nat) : LaidOut 0 [] (toString number) :=
  laidOut_of_unbroken (unbroken_toString number)

namespace LaidOut

variable {newlines moreNewlines : Nat} {shown moreShown : List String} {text next : String}

theorem append (laid : LaidOut newlines shown text)
    (nextLaid : LaidOut moreNewlines moreShown next) :
    LaidOut (newlines + moreNewlines) (shown ++ moreShown) (text ++ next) := by
  have joined := List.Perm.append laid nextLaid
  rw [LaidOut, String.toList_append, List.filter_append]
  apply joined.trans
  rw [breaksOf, breaksOf, breaksOf, List.flatMap_append, ← List.replicate_append_replicate]
  -- the newlines of the second part move to those of the first
  apply List.perm_iff_count.mpr
  intro char
  simp only [List.count_append]
  omega

/-- Marks around a text. -/
theorem enclose (laid : LaidOut newlines shown text) {opening closing : String}
    (opens : LaidOut 0 [] opening) (closes : LaidOut 0 [] closing) :
    LaidOut newlines shown (opening ++ text ++ closing) := by
  have whole := (opens.append laid).append closes
  rw [Nat.zero_add, List.nil_append, List.append_nil] at whole
  exact whole

theorem padRight (laid : LaidOut newlines shown text) (width : Nat) :
    LaidOut newlines shown (padRight width text) := by
  have blanks : LaidOut 0 [] (String.ofList (List.replicate (width - text.length) ' ')) := by
    apply laidOut_of_unbroken
    rw [String.toList_ofList]
    exact unbroken_replicate rfl _
  have whole := laid.append blanks
  rw [List.append_nil] at whole
  exact whole

/-- One more line, with a label and what belongs to it. -/
theorem line (laid : LaidOut newlines shown text) (label : String) (named : LaidOut 0 [] label)
    (nextLaid : LaidOut 0 moreShown next) :
    LaidOut (newlines + 1) (shown ++ moreShown) (text ++ label ++ next ++ "\n") := by
  have whole := ((laid.append named).append nextLaid).append laidOut_newline
  rw [List.append_nil, List.append_nil] at whole
  exact whole

theorem lineCount_eq (laid : LaidOut newlines shown text) :
    lineCount text = newlines + 1 + (breaksOf shown).count '\n' := by
  have counts := laid.count_eq '\n'
  rw [List.count_filter rfl, List.count_append, List.count_replicate_self] at counts
  rw [lineCount, counts]
  omega

/-- What ends or disturbs a line is a newline of the layout or stands in a shown text. -/
theorem mem_of_breaksLine (laid : LaidOut newlines shown text) {char : Char}
    (member : char ∈ text.toList) (breaking : breaksLine char = true) :
    char = '\n' ∨ ∃ part ∈ shown, char ∈ part.toList := by
  have collected := laid.mem_iff.mp (List.mem_filter.mpr ⟨member, breaking⟩)
  rcases List.mem_append.mp collected with layout | ofShown
  · exact Or.inl (List.eq_of_mem_replicate layout)
  · rcases mem_breaksOf_iff.mp ofShown with ⟨part, listed, inPart, _⟩
    exact Or.inr ⟨part, listed, inPart⟩

theorem mem_of_mem_shown (laid : LaidOut newlines shown text) {part : String}
    (listed : part ∈ shown) {char : Char} (member : char ∈ part.toList)
    (breaking : breaksLine char = true) : char ∈ text.toList := by
  have ofShown : char ∈ breaksOf shown := mem_breaksOf_iff.mpr ⟨part, listed, member, breaking⟩
  exact (List.mem_filter.mp (laid.mem_iff.mpr (List.mem_append_right _ ofShown))).1

/-- A text stands on the lines it was laid out on just if all that it shows stays on its
line. -/
theorem onLines_iff (laid : LaidOut newlines shown text) :
    OnLines (newlines + 1) text ↔ ∀ part ∈ shown, Unbroken part.toList := by
  constructor
  · intro stands part listed char member
    by_contra unequal
    have breaking : breaksLine char = true := (Bool.not_eq_false _).mp unequal
    -- whatever breaks a line is a newline, and the layout has used up all of them
    have newline : char = '\n' :=
      stands.eq_newline char (laid.mem_of_mem_shown listed member breaking) breaking
    subst newline
    have counted : 0 < (breaksOf shown).count '\n' :=
      List.count_pos_iff.mpr (mem_breaksOf_iff.mpr ⟨part, listed, member, breaking⟩)
    have lines := laid.lineCount_eq
    rw [stands.lineCount_eq] at lines
    omega
  · intro unbroken
    have none : breaksOf shown = [] := breaksOf_eq_nil_iff.mpr unbroken
    constructor
    · rw [laid.lineCount_eq, none, List.count_nil, Nat.add_zero]
    · intro char member breaking
      rcases laid.mem_of_breaksLine member breaking with newline | ⟨part, listed, inPart⟩
      · exact newline
      · rw [unbroken part listed char inPart] at breaking
        nomatch breaking

end LaidOut

/-- Texts one after the other, each laid out with as many newlines. -/
theorem laidOut_join {newlines : Nat} {texts : List String}
    (each : ∀ text ∈ texts, LaidOut newlines [] text) :
    LaidOut (texts.length * newlines) [] (String.join texts) := by
  induction texts with
  | nil =>
      rw [List.length_nil, Nat.zero_mul]
      exact .refl _
  | cons text rest ih =>
      rcases List.forall_mem_cons.mp each with ⟨first, later⟩
      rw [String.join_cons, List.length_cons, Nat.succ_mul, Nat.add_comm]
      exact first.append (ih later)

end TextScanner
