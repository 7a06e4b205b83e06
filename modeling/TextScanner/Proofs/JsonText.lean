import Mathlib
import TextScanner.Json.Reader
import TextScanner.Json.Writer

/-!
# Texts that are read as documents

A writer of documents is checked part by part: what it writes for a character of a
string (`Escapes`), for a document (`Reads`) and for a member of an object
(`ReadsMember`).  Each of these says what the reader makes of the text whatever
follows it, so that the parts can be put together: `readString?_flatMap`,
`reads_array` and `reads_object`.

Numbers have no end of their own.  They end where something follows that is no
part of a number, and inside a document nothing else may follow them (`Closed`).
-/

namespace TextScanner.Json

/-! ## Strings -/

/-- Whether a part of a string stands for a character by itself. -/
def StringPart.Denotes (char : Char) : StringPart → Prop
  | .char read => read = char
  | .unit code => code = char.toNat

/-- A text that is read as one part of a string, which stands for a
character. -/
def Escapes (text : List Char) (char : Char) : Prop :=
  ∃ part : StringPart, part.Denotes char ∧
    ∀ rest, readParts? (text ++ rest) =
      (readParts? rest).map fun (parts, remaining) => (part :: parts, remaining)

/-- A letter behind a backslash. -/
theorem escapes_short {letter char : Char} (short : shortEscape? letter = some char) :
    Escapes ['\\', letter] char := by
  refine ⟨.char char, rfl, fun rest => ?_⟩
  have other : letter ≠ 'u' := by
    rintro rfl
    simp [shortEscape?] at short
  rw [List.cons_append, List.cons_append, List.nil_append, readParts?]
  · rw [short]
    cases readParts? rest <;> rfl
  · simp [other]

/-- The unit of a character in hexadecimal. -/
theorem escapes_unit {first second third fourth char : Char}
    (spells : unitOfHex? first second third fourth = some char.toNat) :
    Escapes ['\\', 'u', first, second, third, fourth] char := by
  refine ⟨.unit char.toNat, rfl, fun rest => ?_⟩
  simp only [List.cons_append, List.nil_append, readParts?]
  rw [spells]
  cases readParts? rest <;> rfl

theorem unitOfHex?_fourHexDigits {ten : Char} (letter : ten = 'a' ∨ ten = 'A') {code : Nat}
    (small : code < 0x10000) :
    unitOfHex? (hexDigit ten (code / 4096 % 16)) (hexDigit ten (code / 256 % 16))
      (hexDigit ten (code / 16 % 16)) (hexDigit ten (code % 16)) = some code := by
  have digit (number : Nat) : hexDigit? (hexDigit ten (number % 16)) = some (number % 16) :=
    hexDigit?_hexDigit letter (Nat.mod_lt number (by decide))
  have positions :
      ((code / 4096 % 16 * 16 + code / 256 % 16) * 16 + code / 16 % 16) * 16 + code % 16 =
        code := by
    omega
  simp [unitOfHex?, digit, positions]

theorem escapes_fourHexDigits {ten : Char} (letter : ten = 'a' ∨ ten = 'A') {char : Char}
    (small : char.toNat < 0x10000) :
    Escapes ('\\' :: 'u' :: fourHexDigits ten char.toNat) char :=
  escapes_unit (unitOfHex?_fourHexDigits letter small)

/-- A character that needs no escape. -/
theorem escapes_self {char : Char} (quote : char ≠ '"') (backslash : char ≠ '\\')
    (visible : ¬char.toNat < 0x20) : Escapes [char] char := by
  refine ⟨.char char, rfl, fun rest => ?_⟩
  rw [List.cons_append, List.nil_append, readParts?]
  · rw [if_neg visible]
    cases readParts? rest <;> rfl
  · simp [quote]
  · simp [backslash]
  · simp [backslash]

theorem not_surrogate (char : Char) :
    isHighSurrogate char.toNat = false ∧ isLowSurrogate char.toNat = false := by
  have valid : char.toNat < 0xD800 ∨ 0xDFFF < char.toNat ∧ char.toNat < 0x110000 := char.valid
  simp only [isHighSurrogate, isLowSurrogate, Bool.and_eq_false_iff, decide_eq_false_iff_not]
  omega

/-- A part that stands for a character by itself is read without its
neighbours. -/
theorem textOfParts?_cons {part : StringPart} {char : Char} (denotes : part.Denotes char)
    (parts : List StringPart) :
    textOfParts? (part :: parts) = (textOfParts? parts).map (char :: ·) := by
  cases part with
  | char read =>
      obtain rfl : read = char := denotes
      rfl
  | unit code =>
      obtain rfl : code = char.toNat := denotes
      obtain ⟨notHigh, notLow⟩ := not_surrogate char
      cases parts with
      | nil => simp [textOfParts?, notHigh, notLow]
      | cons next rest => simp [textOfParts?, notHigh, notLow]

/-- Characters that are escaped one by one are read back. -/
theorem readString?_flatMap {escape : Char → List Char}
    (escapes : ∀ char, Escapes (escape char) char) (chars rest : List Char) :
    readString? (chars.flatMap escape ++ '"' :: rest) =
      some (some (String.ofList chars), rest) := by
  have spelled : ∃ parts, readParts? (chars.flatMap escape ++ '"' :: rest) = some (parts, rest) ∧
      textOfParts? parts = some chars := by
    induction chars with
    | nil => exact ⟨[], by simp [readParts?], rfl⟩
    | cons char chars ih =>
        obtain ⟨parts, read, text⟩ := ih
        obtain ⟨part, denotes, readPart⟩ := escapes char
        refine ⟨part :: parts, ?_, ?_⟩
        · rw [List.flatMap_cons, List.append_assoc, readPart, read]
          rfl
        · rw [textOfParts?_cons denotes, text]
          rfl
  obtain ⟨parts, read, text⟩ := spelled
  simp [readString?, read, text]

/-- A text between quotes whose characters are escaped one by one is its literal. -/
theorem isLiteral_flatMap {escape : Char → List Char}
    (escapes : ∀ char, Escapes (escape char) char) (text : String) :
    IsLiteral ('"' :: (text.toList.flatMap escape ++ ['"'])) text := by
  refine ⟨_, rfl, fun rest => ?_⟩
  rw [List.append_assoc, List.singleton_append, readString?_flatMap escapes,
    String.ofList_toList]

/-! ## Numbers -/

/-- Whether a reader takes no part of what follows the text that it reads. -/
def Extends {α : Type} (reader : List Char → Option (α × List Char)) (rest : List Char) : Prop :=
  ∀ {chars : List Char} {read : α} {left : List Char},
    reader chars = some (read, left) → reader (chars ++ rest) = some (read, left ++ rest)

/-- What may follow a document inside another one. -/
def Closed (rest : List Char) : Prop :=
  ∀ char ∈ rest.head?, char = ',' ∨ char = ']' ∨ char = '\x7d'

theorem takeDigits_append {rest : List Char} (closed : Closed rest) (chars : List Char) :
    takeDigits (chars ++ rest) = ((takeDigits chars).1, (takeDigits chars).2 ++ rest) := by
  induction chars with
  | nil =>
      cases rest with
      | nil => rfl
      | cons char rest =>
          have notDigit : char.isDigit = false := by
            rcases closed char rfl with rfl | rfl | rfl <;> rfl
          simp [takeDigits, notDigit]
  | cons char chars ih =>
      simp only [takeDigits, List.cons_append, Prod.mk.injEq] at ih ⊢
      by_cases digit : char.isDigit
      · simp [digit, ih]
      · simp [digit]

theorem readDigits?_extends {rest : List Char} (closed : Closed rest) :
    Extends readDigits? rest := by
  intro chars read left success
  unfold readDigits? at success ⊢
  rw [takeDigits_append closed]
  generalize takeDigits chars = taken at success ⊢
  rcases taken with ⟨_ | ⟨digit, digits⟩, after⟩
  · simp at success
  · simp only [Option.some.injEq, Prod.mk.injEq] at success ⊢
    obtain ⟨rfl, rfl⟩ := success
    exact ⟨rfl, rfl⟩

theorem readWhole?_extends {rest : List Char} (closed : Closed rest) :
    Extends readWhole? rest := by
  intro chars read left success
  unfold readWhole? at success ⊢
  cases digits : readDigits? chars with
  | none => simp [digits] at success
  | some taken =>
      rcases taken with ⟨whole, after⟩
      rw [readDigits?_extends closed digits]
      rw [digits] at success
      split at success
      · simp at success
      · obtain ⟨rfl, rfl⟩ := Prod.mk.inj (Option.some.inj success)
        split
        · simp_all
        · rfl

theorem Closed.head_ne {rest : List Char} (closed : Closed rest) {char : Char}
    (other : char ≠ ',' ∧ char ≠ ']' ∧ char ≠ '\x7d') {others : List Char} :
    rest ≠ char :: others := by
  rintro rfl
  rcases closed char rfl with same | same | same
  · exact other.1 same
  · exact other.2.1 same
  · exact other.2.2 same

theorem readFraction?_extends {rest : List Char} (closed : Closed rest) :
    Extends readFraction? rest := by
  intro chars read left success
  unfold readFraction? at success
  split at success
  · rename_i digits
    obtain ⟨⟨fraction, after⟩, found, same⟩ := Option.map_eq_some_iff.1 success
    obtain ⟨rfl, rfl⟩ := Prod.mk.inj same
    simp [readFraction?, readDigits?_extends closed found]
  · rename_i noPoint
    obtain ⟨rfl, rfl⟩ := Prod.mk.inj (Option.some.inj success)
    unfold readFraction?
    split
    · rename_i digits start
      cases chars with
      | nil => exact absurd start (closed.head_ne (by decide))
      | cons char chars =>
          obtain ⟨rfl, -⟩ := List.cons.inj start
          exact absurd rfl (noPoint chars)
    · rfl

theorem readExponent?_extends {rest : List Char} (closed : Closed rest) :
    Extends readExponent? rest := by
  intro chars read left success
  cases chars with
  | nil =>
      obtain ⟨rfl, rfl⟩ := Prod.mk.inj (Option.some.inj success)
      cases rest with
      | nil => rfl
      | cons char rest =>
          have other : ¬(char = 'e' ∨ char = 'E') := by
            rcases closed char rfl with rfl | rfl | rfl <;> decide
          simp [readExponent?, other]
  | cons char chars =>
      simp only [readExponent?, List.cons_append] at success ⊢
      split at success
      · rename_i mark
        rw [if_pos mark]
        cases chars with
        | nil => simp [readDigits?, takeDigits] at success
        | cons sign digits =>
            obtain ⟨⟨exponent, after⟩, found, same⟩ := Option.map_eq_some_iff.1 success
            obtain ⟨rfl, rfl⟩ := Prod.mk.inj same
            by_cases plus : sign = '+'
            · subst plus
              have unsigned : readDigits? digits = some (exponent, after) := found
              simp [readDigits?_extends closed unsigned]
            · by_cases minus : sign = '-'
              · subst minus
                have unsigned : readDigits? digits = some (exponent, after) := found
                simp [readDigits?_extends closed unsigned]
              · have unsigned : readDigits? (sign :: digits) = some (exponent, after) := by
                  simpa [plus, minus] using found
                simpa [plus, minus] using readDigits?_extends closed unsigned
      · rename_i mark
        rw [if_neg mark]
        obtain ⟨rfl, rfl⟩ := Prod.mk.inj (Option.some.inj success)
        rfl

/-- What follows digits does not begin with one. -/
theorem takeDigits_of_digits {digits rest : List Char}
    (all : ∀ char ∈ digits, char.isDigit = true)
    (ends : ∀ char ∈ rest.head?, char.isDigit = false) :
    takeDigits (digits ++ rest) = (digits, rest) := by
  induction digits with
  | nil =>
      cases rest with
      | nil => rfl
      | cons char rest => simp [takeDigits, ends char rfl]
  | cons digit digits ih =>
      rcases List.forall_mem_cons.mp all with ⟨isDigit, others⟩
      have taken := ih others
      simp only [takeDigits, Prod.mk.injEq] at taken ⊢
      simp [isDigit, taken]

theorem readDigits?_of_digits {digits rest : List Char} (nonempty : digits ≠ [])
    (all : ∀ char ∈ digits, char.isDigit = true)
    (ends : ∀ char ∈ rest.head?, char.isDigit = false) :
    readDigits? (digits ++ rest) = some (digits, rest) := by
  rw [readDigits?, takeDigits_of_digits all ends]
  cases digits with
  | nil => exact absurd rfl nonempty
  | cons digit digits => rfl

/-- Digits that can be the whole part of a number. -/
structure WholeDigits (digits : List Char) : Prop where
  nonempty : digits ≠ []
  all : ∀ char ∈ digits, char.isDigit = true
  /-- No zero stands before other digits. -/
  leading : ∀ {others : List Char}, digits = '0' :: others → others = []

theorem WholeDigits.read {digits : List Char} (whole : WholeDigits digits) {rest : List Char}
    (ends : ∀ char ∈ rest.head?, char.isDigit = false) :
    readWhole? (digits ++ rest) = some (digits, rest) := by
  rw [readWhole?, readDigits?_of_digits whole.nonempty whole.all ends]
  split
  · rename_i start
    have none := whole.leading (Prod.mk.inj (Option.some.inj start)).1
    nomatch none
  · rfl

/-- Read a number after its sign. -/
def readMagnitude? (negative : Bool) (chars : List Char) : Option (Numeral × List Char) := do
  let (whole, rest) ← readWhole? chars
  let (fraction, rest) ← readFraction? rest
  let (exponent, rest) ← readExponent? rest
  return ({ negative, whole, fraction, exponent }, rest)

theorem readNumeral?_minus (chars : List Char) :
    readNumeral? ('-' :: chars) = readMagnitude? true chars :=
  rfl

theorem readNumeral?_of_head_ne {chars : List Char} (unsigned : ∀ rest, chars ≠ '-' :: rest) :
    readNumeral? chars = readMagnitude? false chars := by
  cases chars with
  | nil => rfl
  | cons first others =>
      simp [readNumeral?, readMagnitude?]

theorem readMagnitude?_extends (negative : Bool) {rest : List Char} (closed : Closed rest) :
    Extends (readMagnitude? negative) rest := by
  intro chars read left success
  simp only [readMagnitude?, Option.bind_eq_bind, Option.bind_eq_some_iff] at success ⊢
  obtain ⟨⟨whole, afterWhole⟩, foundWhole, ⟨fraction, afterFraction⟩, foundFraction,
    ⟨exponent, afterExponent⟩, foundExponent, same⟩ := success
  obtain ⟨rfl, rfl⟩ := Prod.mk.inj (Option.some.inj same)
  exact ⟨_, readWhole?_extends closed foundWhole, _, readFraction?_extends closed foundFraction,
    _, readExponent?_extends closed foundExponent, rfl⟩

theorem readNumeral?_extends {rest : List Char} (closed : Closed rest) :
    Extends readNumeral? rest := by
  intro chars read left success
  by_cases signed : ∃ digits, chars = '-' :: digits
  · obtain ⟨digits, rfl⟩ := signed
    rw [readNumeral?_minus] at success
    rw [List.cons_append, readNumeral?_minus]
    exact readMagnitude?_extends true closed success
  · have unsigned : ∀ digits, chars ≠ '-' :: digits := fun digits same => signed ⟨digits, same⟩
    have unsignedRest : ∀ digits, chars ++ rest ≠ '-' :: digits := by
      intro digits same
      cases chars with
      | nil => exact closed.head_ne (by decide) same
      | cons char chars =>
          obtain ⟨rfl, -⟩ := List.cons.inj same
          exact unsigned chars rfl
    rw [readNumeral?_of_head_ne unsigned] at success
    rw [readNumeral?_of_head_ne unsignedRest]
    exact readMagnitude?_extends false closed success

/-- A number starts with a sign or a digit. -/
theorem head_of_readNumeral? {chars left : List Char} {numeral : Numeral}
    (read : readNumeral? chars = some (numeral, left)) :
    ∃ first others, chars = first :: others ∧ (first = '-' ∨ first.isDigit = true) := by
  cases chars with
  | nil => simp [readNumeral?, readWhole?, readDigits?, takeDigits] at read
  | cons first others =>
      refine ⟨first, others, rfl, ?_⟩
      by_cases minus : first = '-'
      · exact Or.inl minus
      · refine Or.inr ?_
        by_cases digit : first.isDigit
        · exact digit
        · rw [readNumeral?_of_head_ne (by simp [minus])] at read
          simp [readMagnitude?, readWhole?, readDigits?, takeDigits, digit] at read

/-- The point and the fraction of a number, if it has one. -/
def pointed : Option (List Char) → List Char
  | none => []
  | some digits => '.' :: digits

theorem readFraction?_pointed {fraction : Option (List Char)}
    (digits : ∀ digits ∈ fraction, digits ≠ [] ∧ ∀ char ∈ digits, char.isDigit = true) :
    readFraction? (pointed fraction) = some (fraction, []) := by
  cases fraction with
  | none => rfl
  | some fraction =>
      obtain ⟨nonempty, all⟩ := digits fraction rfl
      have read := readDigits?_of_digits nonempty all (show ∀ char ∈ [].head?, _ by simp)
      rw [List.append_nil] at read
      simp [pointed, readFraction?, read]

/-- A sign, the digits before the point and those behind it are read as a number. -/
theorem WholeDigits.readNumeral? {whole : List Char} {fraction : Option (List Char)}
    (wholeDigits : WholeDigits whole)
    (digits : ∀ digits ∈ fraction, digits ≠ [] ∧ ∀ char ∈ digits, char.isDigit = true)
    (negative : Bool) :
    Json.readNumeral? ((if negative then ['-'] else []) ++ (whole ++ pointed fraction)) =
      some (⟨negative, whole, fraction, none⟩, []) := by
  have ends : ∀ char ∈ (pointed fraction).head?, char.isDigit = false := by
    cases fraction <;> simp [pointed]
  have magnitude : readMagnitude? negative (whole ++ pointed fraction) =
      some (⟨negative, whole, fraction, none⟩, []) := by
    rw [readMagnitude?, wholeDigits.read ends]
    simp [readFraction?_pointed digits, readExponent?]
  cases negative with
  | true => exact magnitude
  | false =>
      refine (readNumeral?_of_head_ne ?_).trans magnitude
      intro rest same
      cases whole with
      | nil => exact wholeDigits.nonempty rfl
      | cons first others =>
          have digit := wholeDigits.all first List.mem_cons_self
          rw [show first = '-' from (List.cons.inj same).1] at digit
          nomatch digit

/-! ## Whole numbers -/

theorem eq_zero_of_toDigits_eq {number : Nat} {rest : List Char}
    (digits : Nat.toDigits 10 number = '0' :: rest) : number = 0 := by
  induction number using Nat.strongRecOn generalizing rest with
  | ind number ih =>
      rw [Nat.toDigits_eq_if (by decide)] at digits
      split at digits
      · rename_i small
        have single : ∀ number : Fin 10, Nat.digitChar number = '0' → number.val = 0 := by decide
        exact single ⟨number, small⟩ (List.cons.inj digits).1
      · rename_i large
        cases front : Nat.toDigits 10 (number / 10) with
        | nil => exact absurd front Nat.toDigits_ne_nil
        | cons digit others =>
            rw [front] at digits
            obtain ⟨rfl, -⟩ := List.cons.inj digits
            have := ih (number / 10) (by omega) front
            omega

theorem isDigit_of_mem_writeNat {number : Nat} {char : Char} (listed : char ∈ writeNat number) :
    char.isDigit = true :=
  Nat.isDigit_of_mem_toDigits (by decide) (by decide) listed

theorem wholeDigits_writeNat (number : Nat) : WholeDigits (writeNat number) := by
  refine ⟨Nat.toDigits_ne_nil, fun _ => isDigit_of_mem_writeNat, ?_⟩
  intro others leading
  have zero := eq_zero_of_toDigits_eq leading
  subst zero
  exact (List.cons.inj leading).2.symm

theorem readNumeral?_writeNat (number : Nat) :
    readNumeral? (writeNat number) = some (⟨false, writeNat number, none, none⟩, []) := by
  have read := (wholeDigits_writeNat number).readNumeral?
    (show ∀ digits ∈ (none : Option (List Char)), _ by simp) false
  rw [pointed, List.append_nil] at read
  exact read

theorem digitsValue_writeNat (number : Nat) : digitsValue (writeNat number) = number := by
  have value := Nat.ofDigitChars_ten_toDigits (n := number)
  rw [Nat.ofDigitChars_eq_foldl] at value
  exact value

/-! ## Documents -/

/-- A text that is read as a document wherever a document may stand. -/
structure Reads (text : List Char) (document : Json) : Prop where
  /-- The text starts at once, and not like the end of an array. -/
  begins : ∃ first others, text = first :: others ∧ isBlank first = false ∧ first ≠ ']'
  read : ∀ {fuel : Nat} {rest : List Char}, 2 * text.length ≤ fuel → Closed rest →
    readValue? fuel (text ++ rest) = some (document, rest)

theorem Reads.read? {text : List Char} {document : Json} (reads : Reads text document) :
    Json.read? (String.ofList text) = some document := by
  have closed : Closed [] := by simp [Closed]
  have found := reads.read (Nat.le_add_right (2 * text.length) 2) closed
  rw [List.append_nil] at found
  simp [Json.read?, readChars?, found, skipBlanks]

theorem skipBlanks_cons {first : Char} (visible : isBlank first = false) (others : List Char) :
    skipBlanks (first :: others) = first :: others := by
  simp [skipBlanks, visible]

/-- A text that starts at once is read with some fuel left. -/
theorem Reads.of_cons {first : Char} {others : List Char} {document : Json}
    (visible : isBlank first = false) (inside : first ≠ ']')
    (read : ∀ {fuel : Nat} {rest : List Char}, 2 * others.length + 1 ≤ fuel → Closed rest →
      readValue? (fuel + 1) (first :: (others ++ rest)) = some (document, rest)) :
    Reads (first :: others) document := by
  refine ⟨⟨first, others, rfl, visible, inside⟩, ?_⟩
  intro fuel rest enough closed
  rw [List.length_cons] at enough
  obtain ⟨fuel, rfl⟩ : ∃ less, fuel = less + 1 := ⟨fuel - 1, by omega⟩
  exact read (by omega) closed

theorem reads_null : Reads ['n', 'u', 'l', 'l'] .null :=
  .of_cons (by decide) (by decide) fun _ _ => rfl

theorem reads_boolean (flag : Bool) :
    Reads (if flag then "true" else "false").toList (.boolean flag) := by
  cases flag with
  | true => exact .of_cons (by decide) (by decide) fun _ _ => rfl
  | false => exact .of_cons (by decide) (by decide) fun _ _ => rfl

theorem reads_string {written : List Char} {text : String} (literal : IsLiteral written text) :
    Reads written (.string (some text)) := by
  obtain ⟨body, rfl, spells⟩ := literal
  refine .of_cons (by decide) (by decide) ?_
  intro fuel rest enough closed
  simp [readValue?, skipBlanks_cons, isBlank, spells]

theorem reads_number {text : List Char} {numeral : Numeral}
    (read : readNumeral? text = some (numeral, [])) : Reads text (.number numeral) := by
  obtain ⟨first, others, rfl, head⟩ := head_of_readNumeral? read
  have other : first ≠ 'n' ∧ first ≠ 't' ∧ first ≠ 'f' ∧ first ≠ '"' ∧ first ≠ '[' ∧
      first ≠ '\x7b' ∧ first ≠ ']' ∧ isBlank first = false := by
    rcases head with rfl | digit
    · decide
    · have visible : isBlank first = false := by
        rw [Bool.eq_false_iff]
        intro blank
        simp only [isBlank, Bool.or_eq_true, beq_iff_eq] at blank
        rcases blank with ((rfl | rfl) | rfl) | rfl <;> simp at digit
      refine ⟨?_, ?_, ?_, ?_, ?_, ?_, ?_, visible⟩ <;> rintro rfl <;> simp at digit
  refine .of_cons (by simp [other]) (by simp [other]) ?_
  intro fuel rest enough closed
  have extended := readNumeral?_extends closed read
  rw [List.cons_append, List.nil_append] at extended
  simp [readValue?, skipBlanks_cons, other, extended]

theorem reads_writeNat (number : Nat) : Reads (writeNat number) (ofNat number) :=
  reads_number (readNumeral?_writeNat number)

/-! ## Arrays and objects -/

theorem closed_cons {first : Char} (closes : first = ',' ∨ first = ']' ∨ first = '\x7d')
    (others : List Char) : Closed (first :: others) := by
  rintro char ⟨⟩
  exact closes

theorem readItems?_last {fuel : Nat} {chars rest : List Char} {item : Json}
    (read : readValue? fuel chars = some (item, ']' :: rest)) :
    readItems? (fuel + 1) chars = some ([item], rest) := by
  simp [readItems?, read, skipBlanks_cons, isBlank]

theorem readItems?_next {fuel : Nat} {chars rest : List Char} {item : Json}
    (read : readValue? fuel chars = some (item, ',' :: rest)) :
    readItems? (fuel + 1) chars =
      (readItems? fuel rest).map fun (items, rest) => (item :: items, rest) := by
  simp [readItems?, read, skipBlanks_cons, isBlank]

theorem readValue?_array {fuel : Nat} {first : Char} {others : List Char}
    (visible : isBlank first = false) (inside : first ≠ ']') :
    readValue? (fuel + 1) ('[' :: first :: others) =
      (readItems? fuel (first :: others)).map fun (items, rest) => (.array items, rest) := by
  simp only [readValue?, skipBlanks_cons (show isBlank '[' = false by decide),
    skipBlanks_cons visible]
  split
  · rename_i same
    exact absurd (List.cons.inj same).1 inside
  · rfl

theorem readValue?_object {fuel : Nat} (others : List Char) :
    readValue? (fuel + 1) ('\x7b' :: '"' :: others) =
      (readMembers? fuel ('"' :: others)).map fun (members, rest) => (.object members, rest) :=
  rfl

section Parts

universe u

variable {α : Type u} {write : α → List Char}

/-- Texts with separators start like the first of them. -/
theorem separate_begins {item : α} (items : List α) {first : Char} {others : List Char}
    (begins : write item = first :: others) :
    ∃ tail, separate ((item :: items).map write) = first :: tail := by
  cases items with
  | nil => exact ⟨others, by simp [separate, begins]⟩
  | cons next items =>
      exact ⟨others ++ ',' :: separate ((next :: items).map write), by simp [separate, begins]⟩

variable {document : α → Json}

theorem readItems?_separate {items : List α}
    (each : ∀ item ∈ items, Reads (write item) (document item)) (nonempty : items ≠ [])
    {fuel : Nat} (enough : 2 * (separate (items.map write)).length + 1 ≤ fuel)
    (rest : List Char) :
    readItems? fuel (separate (items.map write) ++ ']' :: rest) =
      some (items.map document, rest) := by
  -- An item is read with the fuel of its characters, and the comma behind it pays for the
  -- step to the next one.
  induction items generalizing fuel with
  | nil => exact absurd rfl nonempty
  | cons item items ih =>
      obtain ⟨fuel, rfl⟩ : ∃ less, fuel = less + 1 := ⟨fuel - 1, by omega⟩
      have first := each item List.mem_cons_self
      cases items with
      | nil =>
          simp only [List.map_cons, List.map_nil, separate] at enough ⊢
          exact readItems?_last (first.read (by omega) (closed_cons (by decide) rest))
      | cons next items =>
          simp only [List.map_cons, separate, List.length_append, List.length_cons] at enough ih ⊢
          have later := ih (fun item member => each item (List.mem_cons_of_mem _ member))
            (List.cons_ne_nil _ _) (show _ ≤ fuel by omega)
          rw [List.append_assoc, List.cons_append,
            readItems?_next (first.read (by omega) (closed_cons (by decide) _)), later]
          rfl

theorem reads_array {items : List α}
    (each : ∀ item ∈ items, Reads (write item) (document item)) :
    Reads (writeArray (items.map write)) (.array (items.map document)) := by
  refine .of_cons (by decide) (by decide) ?_
  intro fuel rest enough closed
  cases items with
  | nil => simp [readValue?, skipBlanks_cons, isBlank, separate]
  | cons item items =>
      obtain ⟨first, others, begins, visible, inside⟩ := (each item List.mem_cons_self).begins
      rw [List.length_append, List.length_singleton] at enough
      have read := readItems?_separate each (List.cons_ne_nil _ _) (show _ ≤ fuel by omega) rest
      obtain ⟨tail, start⟩ := separate_begins items begins
      rw [start, List.cons_append] at read
      have text : separate ((item :: items).map write) ++ [']'] ++ rest =
          first :: (tail ++ ']' :: rest) := by
        rw [start]
        simp
      rw [text, readValue?_array visible inside, read]
      rfl

/-- A text that is read as a member of an object. -/
def ReadsMember (text : List Char) (name : String) (content : Json) : Prop :=
  ∃ literal written, text = writeMember literal written ∧ IsLiteral literal name ∧
    Reads written content

theorem ReadsMember.read_last {text : List Char} {name : String} {content : Json}
    (reads : ReadsMember text name content) {fuel : Nat} (enough : 2 * text.length ≤ fuel)
    (rest : List Char) :
    readMembers? (fuel + 1) (text ++ '\x7d' :: rest) = some ([(some name, content)], rest) := by
  obtain ⟨_, written, rfl, ⟨body, rfl, spells⟩, reads⟩ := reads
  simp only [writeMember, List.length_cons, List.length_append] at enough
  have read := reads.read (show 2 * written.length ≤ fuel by omega)
    (closed_cons (by decide) rest : Closed ('\x7d' :: rest))
  simp [writeMember, readMembers?, skipBlanks_cons, isBlank, spells, read]

theorem ReadsMember.read_next {text : List Char} {name : String} {content : Json}
    (reads : ReadsMember text name content) {fuel : Nat} (enough : 2 * text.length ≤ fuel)
    (rest : List Char) :
    readMembers? (fuel + 1) (text ++ ',' :: rest) =
      (readMembers? fuel rest).map fun (members, rest) =>
        ((some name, content) :: members, rest) := by
  obtain ⟨_, written, rfl, ⟨body, rfl, spells⟩, reads⟩ := reads
  simp only [writeMember, List.length_cons, List.length_append] at enough
  have read := reads.read (show 2 * written.length ≤ fuel by omega)
    (closed_cons (by decide) rest : Closed (',' :: rest))
  simp [writeMember, readMembers?, skipBlanks_cons, isBlank, spells, read]

variable {name : α → String}

theorem readMembers?_separate {members : List α}
    (each : ∀ member ∈ members, ReadsMember (write member) (name member) (document member))
    (nonempty : members ≠ []) {fuel : Nat}
    (enough : 2 * (separate (members.map write)).length + 1 ≤ fuel) (rest : List Char) :
    readMembers? fuel (separate (members.map write) ++ '\x7d' :: rest) =
      some (members.map fun member => (some (name member), document member), rest) := by
  induction members generalizing fuel with
  | nil => exact absurd rfl nonempty
  | cons member members ih =>
      obtain ⟨fuel, rfl⟩ : ∃ less, fuel = less + 1 := ⟨fuel - 1, by omega⟩
      have first := each member List.mem_cons_self
      cases members with
      | nil =>
          simp only [List.map_cons, List.map_nil, separate] at enough ⊢
          exact first.read_last (by omega) rest
      | cons next members =>
          simp only [List.map_cons, separate, List.length_append, List.length_cons] at enough ih ⊢
          have later := ih (fun member listed => each member (List.mem_cons_of_mem _ listed))
            (List.cons_ne_nil _ _) (show _ ≤ fuel by omega)
          rw [List.append_assoc, List.cons_append, first.read_next (by omega), later]
          rfl

theorem reads_object {members : List α}
    (each : ∀ member ∈ members, ReadsMember (write member) (name member) (document member)) :
    Reads (writeObject (members.map write))
      (.object (members.map fun member => (some (name member), document member))) := by
  refine .of_cons (by decide) (by decide) ?_
  intro fuel rest enough closed
  cases members with
  | nil => simp [readValue?, skipBlanks_cons, isBlank, separate]
  | cons member members =>
      obtain ⟨_, written, begins, ⟨body, rfl, -⟩, -⟩ := each member List.mem_cons_self
      rw [List.length_append, List.length_singleton] at enough
      have read := readMembers?_separate each (List.cons_ne_nil _ _) (show _ ≤ fuel by omega) rest
      obtain ⟨tail, start⟩ := separate_begins members begins
      rw [start, List.cons_append] at read
      have text : separate ((member :: members).map write) ++ ['\x7d'] ++ rest =
          '"' :: (tail ++ '\x7d' :: rest) := by
        rw [start]
        simp
      rw [text, readValue?_object, read]
      rfl

end Parts

theorem reads_member {text : List Char} {name : String} {content : Json}
    (member : ReadsMember text name content) :
    Reads (writeObject [text]) (.object [(some name, content)]) := by
  have each : ∀ part ∈ [text], ReadsMember part name content := by
    simpa using member
  have object := reads_object each
  rwa [List.map_id'] at object

end TextScanner.Json
