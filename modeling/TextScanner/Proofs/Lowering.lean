import TextScanner.Comparison

/-!
# Literals without regard to case

A literal is looked for one character of the text after the other, while what was wanted
is split into small letters of its own.  So a character of the text may take more or
less of it than a character of the literal gave, and the walk may end inside of one.

The walk finds exactly the beginning of the text whose small form is wanted
(`lowerPrefix?_eq_some_iff`).  As no character has an empty small form, there is one such
beginning at most (`eq_of_lowerChars_eq`).
-/

namespace TextScanner

@[simp]
theorem lowerChars_nil : lowerChars [] = [] :=
  rfl

@[simp]
theorem lowerChars_cons (char : Char) (chars : List Char) :
    lowerChars (char :: chars) = Unicode.lower char ++ lowerChars chars :=
  rfl

@[simp]
theorem lowerChars_append (left right : List Char) :
    lowerChars (left ++ right) = lowerChars left ++ lowerChars right :=
  List.flatMap_append

theorem lowerChars_eq_nil_iff {chars : List Char} : lowerChars chars = [] ↔ chars = [] := by
  cases chars with
  | nil => simp
  | cons char chars => simp [Unicode.lower_ne_nil char]

/-- A longer beginning has a longer small form. -/
theorem length_lowerChars_le {left right : List Char} (begins : left <+: right) :
    (lowerChars left).length ≤ (lowerChars right).length := by
  rcases begins with ⟨rest, rfl⟩
  simp

/-- What is found is the beginning whose small form is wanted. -/
theorem lowerPrefix?_eq_some_iff {wanted chars found : List Char} :
    lowerPrefix? wanted chars = some found ↔ found <+: chars ∧ lowerChars found = wanted := by
  induction chars generalizing wanted found with
  | nil =>
      cases wanted with
      | nil =>
          constructor
          · rintro ⟨⟩
            exact ⟨List.prefix_rfl, rfl⟩
          · rintro ⟨begins, _⟩
            rw [List.prefix_nil.mp begins, lowerPrefix?]
      | cons first wanted =>
          constructor
          · intro nothing
            simp [lowerPrefix?] at nothing
          · rintro ⟨begins, small⟩
            simp [List.prefix_nil.mp begins] at small
  | cons char rest ih =>
      cases wanted with
      | nil =>
          rw [lowerPrefix?, Option.some.injEq, lowerChars_eq_nil_iff]
          constructor
          · rintro rfl
            exact ⟨List.nil_prefix, rfl⟩
          · rintro ⟨_, rfl⟩
            rfl
      | cons first wanted =>
          -- the first character takes its small form off what is wanted
          cases found with
          | nil =>
              simp only [lowerPrefix?, lowerChars_nil, List.nil_prefix, true_and]
              cases restAfter? (Unicode.lower char) (first :: wanted) <;> simp
          | cons char' found =>
              rw [List.cons_prefix_cons, lowerChars_cons]
              simp only [lowerPrefix?]
              cases remains : restAfter? (Unicode.lower char) (first :: wanted) with
              | none =>
                  simp only [reduceCtorEq, false_iff]
                  rintro ⟨⟨rfl, _⟩, small⟩
                  rw [restAfter?_eq_some_iff.mpr small.symm] at remains
                  simp at remains
              | some remaining =>
                  simp only [Option.map_eq_some_iff, List.cons.injEq, ih]
                  rw [restAfter?_eq_some_iff.mp remains]
                  constructor
                  · rintro ⟨_, ⟨begins, rfl⟩, rfl, rfl⟩
                    exact ⟨⟨rfl, begins⟩, rfl⟩
                  · rintro ⟨⟨rfl, begins⟩, small⟩
                    exact ⟨found, ⟨begins, List.append_cancel_left small⟩, rfl, rfl⟩

/-- Beginnings of one text are told apart by their small forms. -/
theorem eq_of_lowerChars_eq {left right chars : List Char} (leftBegins : left <+: chars)
    (rightBegins : right <+: chars) (same : lowerChars left = lowerChars right) :
    left = right := by
  have found := lowerPrefix?_eq_some_iff.mpr ⟨leftBegins, same⟩
  rw [lowerPrefix?_eq_some_iff.mpr ⟨rightBegins, rfl⟩] at found
  exact (Option.some.inj found).symm

/-- Nothing is found if what is wanted ends inside the small form of a character of the
text. -/
theorem lowerPrefix?_of_overrun {wanted chars passed : List Char} {char : Char}
    (begins : passed ++ [char] <+: chars)
    (before : (lowerChars passed).length < wanted.length)
    (behind : wanted.length < (lowerChars (passed ++ [char])).length) :
    lowerPrefix? wanted chars = none := by
  rw [Option.eq_none_iff_forall_ne_some]
  intro found matched
  obtain ⟨foundBegins, rfl⟩ := lowerPrefix?_eq_some_iff.mp matched
  rcases List.prefix_or_prefix_of_prefix foundBegins begins with shorter | longer
  · rcases List.prefix_concat_iff.mp shorter with rfl | shorter
    · exact Nat.lt_irrefl _ behind
    · exact absurd (length_lowerChars_le shorter) (Nat.not_le.mpr before)
  · exact absurd (length_lowerChars_le longer) (Nat.not_le.mpr behind)

/-- The end of a beginning of a text is a boundary between two characters. -/
theorem isValid_of_isPrefix {beginning text : String}
    (begins : beginning.toList <+: text.toList) :
    String.Pos.Raw.IsValid text ⟨beginning.utf8ByteSize⟩ := by
  rcases begins with ⟨rest, split⟩
  rw [String.Pos.Raw.isValid_iff_exists_append]
  refine ⟨beginning, String.ofList rest, ?_, rfl⟩
  rw [← String.toList_inj, String.toList_append, String.toList_ofList, split]

namespace ComparisonMode

theorem insensitive_literal_eq_some_iff {candidate text found : String} :
    insensitive.literal candidate text = some found ↔
      found.toList <+: text.toList ∧
        lowerChars found.toList = lowerChars candidate.toList := by
  simp only [insensitive, Option.map_eq_some_iff, lowerPrefix?_eq_some_iff]
  constructor
  · rintro ⟨chars, matched, rfl⟩
    rwa [String.toList_ofList]
  · intro matched
    exact ⟨found.toList, matched, String.ofList_toList⟩

/-- Without regard to case, a literal consumes the beginning of the text that has the
small form of the literal, in the spelling of the text and up to the end of a character.
No other beginning has this small form, so none that is shorter.  Nothing is consumed if
and only if no beginning has it, for one if the literal ends inside the small form of a
character of the text. -/
theorem insensitive_literal_meets_spec (candidate text : String) :
    (∀ found, insensitive.literal candidate text = some found ↔
      found.toList <+: text.toList ∧
        lowerChars found.toList = lowerChars candidate.toList) ∧
    (∀ found, insensitive.literal candidate text = some found →
      String.Pos.Raw.IsValid text ⟨found.utf8ByteSize⟩ ∧
      ∀ other : String, other.toList <+: text.toList →
        lowerChars other.toList = lowerChars candidate.toList → other = found) ∧
    (insensitive.literal candidate text = none ↔
      ∀ found : String, found.toList <+: text.toList →
        lowerChars found.toList ≠ lowerChars candidate.toList) ∧
    (∀ (passed : List Char) (char : Char), passed ++ [char] <+: text.toList →
      (lowerChars passed).length < (lowerChars candidate.toList).length →
      (lowerChars candidate.toList).length < (lowerChars (passed ++ [char])).length →
      insensitive.literal candidate text = none) := by
  refine ⟨fun found => insensitive_literal_eq_some_iff, ?_, ?_, ?_⟩
  · intro found matched
    obtain ⟨begins, small⟩ := insensitive_literal_eq_some_iff.mp matched
    refine ⟨isValid_of_isPrefix begins, ?_⟩
    intro other otherBegins otherSmall
    rw [← String.toList_inj]
    exact eq_of_lowerChars_eq otherBegins begins (otherSmall.trans small.symm)
  · rw [Option.eq_none_iff_forall_ne_some]
    constructor
    · intro nothing found begins small
      exact nothing found (insensitive_literal_eq_some_iff.mpr ⟨begins, small⟩)
    · intro nothing found matched
      obtain ⟨begins, small⟩ := insensitive_literal_eq_some_iff.mp matched
      exact nothing found begins small
  · intro passed char begins before behind
    change (lowerPrefix? (lowerChars candidate.toList) text.toList).map String.ofList = none
    rw [lowerPrefix?_of_overrun begins before behind, Option.map_none]

/-- The capital dotted I has a small form of two characters: it is found by those two,
keeps its spelling, and is not found by the first of them alone. -/
theorem insensitive_literal_meets_spec_of_dotted_capital :
    insensitive.literal "ai\u0307" "A\u0130x" = some "A\u0130" ∧
      String.Pos.Raw.IsValid "A\u0130x" ⟨3⟩ ∧
      insensitive.literal "ai" "A\u0130x" = none := by
  rcases insensitive_literal_meets_spec "ai\u0307" "A\u0130x" with ⟨found_iff, consumed, _, _⟩
  rcases insensitive_literal_meets_spec "ai" "A\u0130x" with ⟨_, _, _, overrun⟩
  have found : insensitive.literal "ai\u0307" "A\u0130x" = some "A\u0130" :=
    (found_iff "A\u0130").mpr ⟨⟨['x'], by decide +kernel⟩, by decide +kernel⟩
  refine ⟨found, (consumed _ found).1, ?_⟩
  exact overrun ['A'] '\u0130' ⟨['x'], by decide +kernel⟩ (by decide +kernel)
    (by decide +kernel)

end ComparisonMode

end TextScanner
