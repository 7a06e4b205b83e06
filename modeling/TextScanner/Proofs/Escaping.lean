import TextScanner.Proofs.JsonText
import TextScanner.Proofs.Layout

/-!
# Escaped texts are string literals

What escaping writes for one character is what a reader of documents makes that
character of (`escapes_escapeChar`).  So an escaped text between quotes is one
complete string literal that is read as the text, whatever follows it, and no two
texts are escaped alike.

That no character of the text can end the literal early is also seen in the escaped
text itself.  Its quotes are those of the text, each behind a backslash of its own
(`escape_eq_append_quote_iff`), and the backslashes before it come in pairs
(`even_trailingBackslashes_escape`).
-/

namespace TextScanner

open Json (Escapes IsLiteral Reads readString?)

/-! ## What is read -/

/-- Characters that are not shown as they are fit into one unit. -/
theorem lt_of_breaksLine {char : Char} (breaking : breaksLine char = true) :
    char.toNat < 0x10000 := by
  simp only [breaksLine, isControl, Bool.or_eq_true, Bool.and_eq_true, decide_eq_true_eq,
    beq_iff_eq] at breaking
  rcases breaking with (control | rfl) | rfl
  · omega
  · decide
  · decide

theorem visible_of_not_breaksLine {char : Char} (plain : ¬breaksLine char = true) :
    ¬char.toNat < 0x20 := by
  simp only [breaksLine, isControl, Bool.or_eq_true, decide_eq_true_eq] at plain
  omega

/-- A character is read from what is written for it. -/
theorem escapes_escapeChar (char : Char) : Escapes (escapeChar char) char := by
  fun_cases escapeChar char with
  | case6 _ _ _ _ _ breaking =>
      exact Json.escapes_fourHexDigits (Or.inr rfl) (lt_of_breaksLine breaking)
  | case7 quote backslash _ _ _ plain =>
      exact Json.escapes_self quote backslash (visible_of_not_breaksLine plain)
  | case1 | case2 | case3 | case4 | case5 =>
      subst_vars
      exact Json.escapes_short rfl

theorem readString?_escape (text : String) (rest : List Char) :
    readString? (escape text.toList ++ '"' :: rest) = some (some text, rest) := by
  rw [escape, Json.readString?_flatMap escapes_escapeChar, String.ofList_toList]

theorem isLiteral_quote (text : String) : IsLiteral (quote text) text :=
  Json.isLiteral_flatMap escapes_escapeChar text

/-- A text between quotes is read as that text wherever a document may stand. -/
theorem reads_quote (text : String) : Reads (quote text) (.string (some text)) :=
  Json.reads_string (isLiteral_quote text)

theorem escape_injective {left right : String}
    (same : escape left.toList = escape right.toList) : left = right := by
  have read := readString?_escape left []
  rw [same, readString?_escape right []] at read
  exact (Option.some.inj (Prod.mk.inj (Option.some.inj read)).1).symm

/-! ## Quotes and backslashes -/

/-- How many backslashes a text ends with. -/
def trailingBackslashes (chars : List Char) : Nat :=
  (chars.rtakeWhile (· = '\\')).length

theorem trailingBackslashes_concat_backslash (chars : List Char) :
    trailingBackslashes (chars ++ ['\\']) = trailingBackslashes chars + 1 := by
  rw [trailingBackslashes, List.rtakeWhile_concat_pos _ _ _ (by decide), List.length_append]
  rfl

theorem trailingBackslashes_concat_of_ne (chars : List Char) {last : Char} (other : last ≠ '\\') :
    trailingBackslashes (chars ++ [last]) = 0 := by
  rw [trailingBackslashes, List.rtakeWhile_concat_neg _ _ _ (by simpa using other)]
  rfl

theorem hexDigit_plain {digit : Nat} (small : digit < 16) :
    hexDigit 'A' digit ≠ '"' ∧ hexDigit 'A' digit ≠ '\\' := by
  revert digit
  decide

theorem plain_of_mem_fourHexDigits {code : Nat} {char : Char}
    (member : char ∈ fourHexDigits 'A' code) : char ≠ '"' ∧ char ≠ '\\' := by
  simp only [fourHexDigits, List.mem_cons, List.not_mem_nil, or_false] at member
  rcases member with rfl | rfl | rfl | rfl
  all_goals exact hexDigit_plain (Nat.mod_lt _ (by decide))

/-- A quote is written for a quote only. -/
theorem eq_quote_of_mem_escapeChar {char : Char} (member : '"' ∈ escapeChar char) : char = '"' := by
  unfold escapeChar at member
  split_ifs at member with quote
  · exact quote
  · exact absurd member (by decide)
  · exact absurd member (by decide)
  · exact absurd member (by decide)
  · exact absurd member (by decide)
  · rcases member with _ | ⟨_, _ | ⟨_, digit⟩⟩
    exact absurd rfl (plain_of_mem_fourHexDigits digit).1
  · exact (List.mem_singleton.mp member).symm

theorem escapeChar_quote_eq {before after : List Char}
    (same : escapeChar '"' = before ++ '"' :: after) : before = ['\\'] ∧ after = [] := by
  rcases before with _ | ⟨first, _ | ⟨second, others⟩⟩
  · exact absurd (List.cons.inj same).1 (by decide)
  · obtain ⟨rfl, rest⟩ := List.cons.inj same
    exact ⟨rfl, (List.cons.inj rest).2.symm⟩
  · simp [escapeChar] at same

/-- A backslash is written last for a backslash only. -/
theorem escapeChar_cases (char : Char) :
    escapeChar char = ['\\', '\\'] ∨
      ∃ start last, escapeChar char = start ++ [last] ∧ last ≠ '\\' := by
  fun_cases escapeChar char with
  | case1 => exact Or.inr ⟨['\\'], '"', rfl, by decide⟩
  | case2 => exact Or.inl rfl
  | case3 => exact Or.inr ⟨['\\'], 'n', rfl, by decide⟩
  | case4 => exact Or.inr ⟨['\\'], 'r', rfl, by decide⟩
  | case5 => exact Or.inr ⟨['\\'], 't', rfl, by decide⟩
  | case6 =>
      exact Or.inr ⟨'\\' :: 'u' :: (fourHexDigits 'A' char.toNat).dropLast, _, rfl,
        (hexDigit_plain (Nat.mod_lt _ (by decide))).2⟩
  | case7 _ backslash => exact Or.inr ⟨[], char, rfl, backslash⟩

/-- The backslashes at the end of an escaped text stand for backslashes, in pairs. -/
theorem even_trailingBackslashes_escape (chars : List Char) :
    Even (trailingBackslashes (escape chars)) := by
  induction chars using List.reverseRecOn with
  | nil => decide
  | append_singleton chars char ih =>
      have last : escape [char] = escapeChar char := List.flatMap_singleton _ _
      rw [escape_append, last]
      rcases escapeChar_cases char with pair | ⟨start, last, ends, other⟩
      · have split : escape chars ++ ['\\', '\\'] = escape chars ++ ['\\'] ++ ['\\'] := by simp
        rw [pair, split, trailingBackslashes_concat_backslash,
          trailingBackslashes_concat_backslash]
        exact ih.add even_two
      · rw [ends, ← List.append_assoc, trailingBackslashes_concat_of_ne _ other]
        exact Even.zero

/-- The quotes of an escaped text are those of the text, each behind a backslash. -/
theorem escape_eq_append_quote_iff {chars before after : List Char} :
    escape chars = before ++ '"' :: after ↔
      ∃ front back, chars = front ++ '"' :: back ∧ before = escape front ++ ['\\'] ∧
        after = escape back := by
  constructor
  · intro same
    induction chars generalizing before with
    | nil => simp at same
    | cons char chars ih =>
        rw [escape_cons, List.append_eq_append_iff] at same
        rcases same with ⟨middle, rfl, later⟩ | ⟨middle, here, later⟩
        · -- the quote stands behind what is written for the first character
          obtain ⟨front, back, rfl, rfl, rfl⟩ := ih later
          exact ⟨char :: front, back, rfl, by simp, rfl⟩
        · cases middle with
          | nil =>
              -- nothing stands before the quote then, not even its backslash
              have starts : escape chars = [] ++ '"' :: after := later.symm
              obtain ⟨front, back, -, backslash, -⟩ := ih starts
              simp at backslash
          | cons first middle =>
              obtain ⟨rfl, rfl⟩ := List.cons.inj later
              have quote : char = '"' := eq_quote_of_mem_escapeChar (by simp [here])
              subst quote
              obtain ⟨rfl, rfl⟩ := escapeChar_quote_eq here
              exact ⟨[], chars, rfl, rfl, rfl⟩
  · rintro ⟨front, back, rfl, rfl, rfl⟩
    rw [escape_append, escape_cons]
    simp [escapeChar]

/-- Every quote of an escaped text stands behind an odd number of backslashes. -/
theorem odd_trailingBackslashes_of_quote {chars before after : List Char}
    (same : escape chars = before ++ '"' :: after) : Odd (trailingBackslashes before) := by
  obtain ⟨front, back, rfl, rfl, rfl⟩ := escape_eq_append_quote_iff.mp same
  rw [trailingBackslashes_concat_backslash]
  exact (even_trailingBackslashes_escape front).add_one

/-! ## Escaping is safe and reversible -/

/-- No character of an escaped text is a control or one of the two separators of lines and
paragraphs. -/
theorem unbroken_escape (text : String) : Unbroken (escape text.toList) := by
  have literal := unbroken_quote text
  rw [quote, unbroken_cons, unbroken_append] at literal
  exact literal.2.1

/-- The characters that are shown as they are, by their codes. -/
theorem breaksLine_eq_false_iff {char : Char} :
    breaksLine char = false ↔ 0x20 ≤ char.toNat ∧ ¬(0x7F ≤ char.toNat ∧ char.toNat ≤ 0x9F) ∧
      char.toNat ≠ 0x2028 ∧ char.toNat ≠ 0x2029 := by
  have line : char = '\u2028' ↔ char.toNat = 0x2028 := Char.toNat_inj.symm
  have paragraph : char = '\u2029' ↔ char.toNat = 0x2029 := Char.toNat_inj.symm
  simp only [breaksLine, isControl, Bool.or_eq_false_iff, Bool.and_eq_false_iff,
    decide_eq_false_iff_not, beq_eq_false_iff_ne, ne_eq, line, paragraph]
  omega

/-- An escaped text shows no control and no separator of lines or paragraphs.  Its quotes
stand behind an odd number of backslashes and it ends with an even one, so that between
quotes it is one string literal, and what is read from that literal is the text.  No two
texts are escaped alike, and texts are escaped part by part. -/
theorem escaped_texts_are_literals :
    (∀ text : String,
      (∀ char ∈ escape text.toList, 0x20 ≤ char.toNat ∧
        ¬(0x7F ≤ char.toNat ∧ char.toNat ≤ 0x9F) ∧
        char.toNat ≠ 0x2028 ∧ char.toNat ≠ 0x2029) ∧
      (∀ before after, escape text.toList = before ++ '"' :: after →
        Odd (trailingBackslashes before)) ∧
      Even (trailingBackslashes (escape text.toList)) ∧
      (∀ rest, readString? (escape text.toList ++ '"' :: rest) = some (some text, rest)) ∧
      Json.read? (String.ofList (quote text)) = some (.string (some text))) ∧
    (∀ left right : String, escape left.toList = escape right.toList → left = right) ∧
    ∀ left right : String,
      escape (left ++ right).toList = escape left.toList ++ escape right.toList := by
  refine ⟨fun text => ⟨?_, ?_, ?_, readString?_escape text, (reads_quote text).read?⟩, ?_, ?_⟩
  · intro char member
    exact breaksLine_eq_false_iff.mp (unbroken_escape text char member)
  · intro before after same
    exact odd_trailingBackslashes_of_quote same
  · exact even_trailingBackslashes_escape text.toList
  · intro left right same
    exact escape_injective same
  · intro left right
    rw [String.toList_append, escape_append]

/-- A backslash before a quote, a line separator before what looks like an escape, a control,
and a backslash at the end. -/
theorem escaped_texts_are_literals_of_backslashes :
    (∀ char ∈ escape "\\\"\u2028\\u0041\x7f\\".toList, 0x20 ≤ char.toNat ∧
        ¬(0x7F ≤ char.toNat ∧ char.toNat ≤ 0x9F) ∧
        char.toNat ≠ 0x2028 ∧ char.toNat ≠ 0x2029) ∧
      (escape "\\\"\u2028\\u0041\x7f\\".toList =
          "\\\\\\".toList ++ '"' :: "\\u2028\\\\u0041\\u007F\\\\".toList ∧
        Odd (trailingBackslashes "\\\\\\".toList)) ∧
      Json.read? (String.ofList (quote "\\\"\u2028\\u0041\x7f\\")) =
        some (.string (some "\\\"\u2028\\u0041\x7f\\")) ∧
      (escape "\\n".toList = escape ("\\" ++ "n").toList ∧ "\\n" = "\\" ++ "n") := by
  obtain ⟨texts, injective, -⟩ := escaped_texts_are_literals
  obtain ⟨plain, quotes, -, -, read⟩ := texts "\\\"\u2028\\u0041\x7f\\"
  have written : escape "\\\"\u2028\\u0041\x7f\\".toList =
      "\\\\\\".toList ++ '"' :: "\\u2028\\\\u0041\\u007F\\\\".toList := by
    decide
  exact ⟨plain, ⟨written, quotes _ _ written⟩, read, by decide, injective _ _ (by decide)⟩

end TextScanner
