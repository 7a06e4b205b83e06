import TextScanner.Proofs.Enumeration
import TextScanner.Proofs.Trying

/-!
# Scans without types make progress

Under a built-in mode a match of a literal or a pattern consumes at least one character of
what stands behind the cursor.  That is seen to in several places: empty literals and empty
patterns are not tried, matches of nothing by a pattern do not count, and without regard to
case only an empty literal has an empty small form.  Together they say that a list that does
not fail consumes something that is there (`Scanner.checkOutcome_of_typeless`).

So a scan that matches moves the cursor on, what is left of the text gets shorter, and a loop
of scans ends (`Scanner.exists_endsAfter`, by induction on the characters that are left).
-/

namespace TextScanner

/-! ## Built-in modes -/

/-- The modes that are built in, with any search for patterns that only finds beginnings of
texts. -/
inductive ComparisonMode.IsBuiltin : ComparisonMode → Prop
  | normal {search : Pattern → String → Option String} (anchored : Anchored search) :
      IsBuiltin (normal.searching search)
  | insensitive {search : Pattern → String → Option String} (anchored : Anchored search) :
      IsBuiltin (insensitive.searching search)

namespace ComparisonMode

variable {mode : ComparisonMode}

theorem normal_isBuiltin : normal.IsBuiltin :=
  .normal findPrefix?_anchored

theorem insensitive_isBuiltin : insensitive.IsBuiltin :=
  .insensitive findPrefixFolded?_anchored

theorem IsBuiltin.honest (builtin : mode.IsBuiltin) : mode.Honest := by
  cases builtin with
  | normal anchored => exact normal_searching_honest anchored
  | insensitive anchored => exact insensitive_searching_honest anchored

theorem eq_of_normal_literal {candidate text found : String}
    (matched : normal.literal candidate text = some found) : found = candidate := by
  simp only [normal] at matched
  split at matched
  · exact (Option.some.inj matched).symm
  · cases matched

/-- A built-in mode consumes nothing only for an empty literal. -/
theorem IsBuiltin.literal_ne_empty (builtin : mode.IsBuiltin) {candidate text found : String}
    (nonempty : candidate ≠ "") (matched : mode.literal candidate text = some found) :
    found ≠ "" := by
  cases builtin with
  | normal =>
      rw [eq_of_normal_literal matched]
      exact nonempty
  | insensitive =>
      rintro rfl
      have small := (insensitive_literal_eq_some_iff.mp matched).2
      rw [String.toList_empty, lowerChars_nil, eq_comm, lowerChars_eq_nil_iff,
        String.toList_eq_nil_iff] at small
      exact nonempty small

end ComparisonMode

/-! ## What searches without types consume -/

/-- Every search is that of a list of options with the same keys. -/
theorem Search.exists_options (search : Search) :
    ∃ options : List ScanOption, options.map ScanOption.key = search.keys ∧
      ∀ call scanner, search.outcome call scanner = (scanner.checkOutcome call options).value := by
  have alone (option : ScanOption) (call : Call) (scanner : Scanner) :
      (ofOption option).outcome call scanner = (scanner.checkOutcome call [option]).value :=
    (value_checkOutcome_singleton call scanner option).symm
  cases search with
  | firstOf options => exact ⟨options, rfl, fun _ _ => rfl⟩
  | literal candidate => exact ⟨[.literal candidate], rfl, alone (.literal candidate)⟩
  | pattern candidate => exact ⟨[.pattern candidate], rfl, alone (.pattern candidate)⟩
  | type reference => exact ⟨[.type reference], rfl, alone (.type reference)⟩
  | enumeration key value => exact ⟨[.enumeration key value], rfl, alone (.enumeration key value)⟩

namespace Scanner

variable {call : Call} {scanner : Scanner} {option : ScanOption} {outcome : Outcome}
  {text : String}

/-- A text that is not empty and stands behind the cursor. -/
def StandsBehind (scanner : Scanner) (text : String) : Prop :=
  text ≠ "" ∧ text.toList <+: scanner.unscannedText.toList

/-- A match without a type consumes something that stands behind the cursor. -/
theorem Produces.standsBehind (builtin : scanner.activeMode.IsBuiltin)
    (typeless : option.Typeless) (produced : scanner.Produces call option outcome) :
    ∃ text, outcome.consumed = some text ∧ scanner.StandsBehind text := by
  induction produced with
  | literal nonempty found =>
      exact ⟨_, rfl, builtin.literal_ne_empty nonempty found, builtin.honest.literal found⟩
  | pattern _ found nonempty => exact ⟨_, rfl, nonempty, builtin.honest.pattern found⟩
  | @type reference => exact absurd rfl (typeless reference)
  | @enumeration key value inner text _ consumed ih =>
      have keyTypeless : key.toOption.Typeless := by
        rw [ScanOption.Typeless, key.key_toOption]
        exact typeless
      rcases ih keyTypeless with ⟨other, otherConsumed, stands⟩
      obtain rfl := Option.some.inj (consumed.symm.trans otherConsumed)
      exact ⟨text, rfl, stands⟩

/-- A list without types fails or consumes something that stands behind the cursor. -/
theorem checkOutcome_of_typeless (builtin : scanner.activeMode.IsBuiltin)
    {options : List ScanOption} (typeless : ∀ option ∈ options, option.Typeless) (call : Call) :
    (scanner.checkOutcome call options).value = .ok .failure ∨
      ∃ outcome text, (scanner.checkOutcome call options).value = .ok outcome ∧
        outcome.matched = true ∧ outcome.consumed = some text ∧ scanner.StandsBehind text := by
  rcases exists_checkOutcome_of_typeless call scanner typeless with ⟨outcome, checked⟩
  rcases checkOutcome_eq_ok_iff.mp checked with ⟨rfl, _⟩ | ⟨before, option, after, rfl, _, produced⟩
  · exact Or.inl checked
  · right
    have typelessOption : option.Typeless := typeless option (by simp)
    rcases produced.standsBehind builtin typelessOption with ⟨text, consumed, stands⟩
    exact ⟨outcome, text, checked, (produces_iff.mp produced).2, consumed, stands⟩

end Scanner

namespace Command

variable {kind : Kind} {command : Command kind} {call : Call} {scanner : Scanner}

/-- A scan, of a list or of a single option, that tries no types. -/
def ScansTypeless (command : Command kind) : Prop :=
  ∃ search, command.scan? = some search ∧ ∀ key ∈ search.keys, ∀ reference, key ≠ .type reference

/-- A scan without types never fails with an error.  It does not match, or it matches and
consumes something that stands behind the cursor. -/
theorem ScansTypeless.cases (typeless : command.ScansTypeless)
    (builtin : scanner.activeMode.IsBuiltin) (call : Call) :
    (command.matched? call scanner = some false ∧ (command.run call scanner).value.2 = scanner) ∨
      (command.matched? call scanner = some true ∧
        ∃ text, command.consumed call scanner = some text ∧ scanner.StandsBehind text) := by
  rcases typeless with ⟨search, scans, typelessKeys⟩
  rcases search.exists_options with ⟨options, sameKeys, asList⟩
  have typelessOptions : ∀ option ∈ options, option.Typeless := by
    intro option member
    apply typelessKeys option.key
    rw [← sameKeys]
    exact List.mem_map_of_mem member
  rcases Scanner.checkOutcome_of_typeless builtin typelessOptions call with
    failed | ⟨outcome, text, checked, matched, consumed, stands⟩
  · left
    have missed : command.matched? call scanner = some false :=
      matched?_eq_some_iff.mpr ⟨search, .failure, scans, (asList call scanner).trans failed, rfl⟩
    refine ⟨missed, run_of_not_matched scans ?_⟩
    rw [missed]
    simp
  · right
    have searched := (asList call scanner).trans checked
    exact ⟨matched?_eq_some_iff.mpr ⟨search, outcome, scans, searched, matched⟩, text,
      consumed_eq_some_iff.mpr ⟨search, outcome, scans, searched, consumed⟩, stands⟩

/-- A scan without types that matches leaves the scanner behind what it consumed. -/
theorem ScansTypeless.run_of_matched (typeless : command.ScansTypeless)
    (placed : scanner.WellPlaced) (builtin : scanner.activeMode.IsBuiltin)
    (matched : command.matched? call scanner = some true) :
    ∃ text, (command.run call scanner).value.2 = scanner.afterMatch text ∧
      scanner.StandsBehind text := by
  rcases typeless.cases builtin call with ⟨missed, _⟩ | ⟨_, text, consumed, stands⟩
  · rw [missed] at matched
    nomatch matched
  · exact ⟨text, run_of_consumed placed consumed, stands⟩

end Command

namespace Scanner

variable {call : Call} {scanner : Scanner}

/-- How many characters are left behind the cursor. -/
def remaining (scanner : Scanner) : Nat :=
  scanner.text.length - scanner.cursor.pos

theorem WellPlaced.length_unscannedText (placed : scanner.WellPlaced) :
    scanner.unscannedText.length = scanner.remaining := by
  rw [← String.length_toList, placed.unscannedText_eq, List.length_drop, String.length_toList,
    remaining]

/-- Consuming something that stands behind the cursor moves the cursor on, within the text. -/
theorem StandsBehind.afterMatch {text : String} (stands : scanner.StandsBehind text)
    (placed : scanner.WellPlaced) :
    scanner.cursor.pos < (scanner.afterMatch text).cursor.pos ∧
      (scanner.afterMatch text).remaining < scanner.remaining := by
  rcases stands with ⟨nonempty, begins⟩
  have landing := (afterMatch_cursor placed begins).1
  have within := (placed.afterMatch text).cursor.pos_le
  have positive : 0 < text.length := by
    rw [← String.length_toList, List.length_pos_iff, ne_eq, String.toList_eq_nil_iff]
    exact nonempty
  have sameText : (scanner.afterMatch text).text = scanner.text := rfl
  rw [sameText, String.length_toList] at within
  rw [remaining, remaining, sameText]
  omega

/-- Behind the last character of the text, options without types fail. -/
theorem resolve_of_isAtEnd (placed : scanner.WellPlaced) (builtin : scanner.activeMode.IsBuiltin)
    (atEnd : scanner.isAtEnd = true) {option : ScanOption} (typeless : option.Typeless)
    (call : Call) : (scanner.resolve call option).value = .ok .failure := by
  rcases exists_resolve_of_typeless call scanner typeless with ⟨outcome, resolved⟩
  apply not_decisive_resolve_iff.mp
  rw [resolved, decisive, ← Bool.not_eq_true]
  intro matched
  rcases (produces_iff.mpr ⟨resolved, matched⟩).standsBehind builtin typeless with
    ⟨text, _, nonempty, begins⟩
  rw [placed.isAtEnd_iff.mp atEnd, String.toList_empty, List.prefix_nil,
    String.toList_eq_nil_iff] at begins
  exact nonempty begins

/-! ## Loops of scans -/

/-- A loop chooses its next scan by the number of scans before and by the scanner, and goes on
until a scan does not match.  From some turn on, it ends after a number of matches. -/
inductive EndsAfter (call : Call) (choose : Nat → Scanner → AnyCommand) :
    (turn : Nat) → Scanner → (count : Nat) → Prop
  | misses {turn : Nat} {scanner : Scanner}
      (missed : (choose turn scanner).2.matched? call scanner = some false) :
      EndsAfter call choose turn scanner 0
  | goesOn {turn count : Nat} {scanner : Scanner}
      (matched : (choose turn scanner).2.matched? call scanner = some true)
      (rest : EndsAfter call choose (turn + 1)
        ((choose turn scanner).2.run call scanner).value.2 count) :
      EndsAfter call choose turn scanner (count + 1)

section Loops

variable {choose : Nat → Scanner → AnyCommand} {turn count : Nat}

/-- A loop of scans without types ends: there is less left of the text in each turn. -/
theorem exists_endsAfter (typeless : ∀ turn place, (choose turn place).2.ScansTypeless)
    (placed : scanner.WellPlaced) (builtin : scanner.activeMode.IsBuiltin) (call : Call)
    (turn : Nat) : ∃ count, EndsAfter call choose turn scanner count := by
  induction left : scanner.remaining using Nat.strongRecOn generalizing scanner turn with
  | ind left ih =>
      rcases (typeless turn scanner).cases builtin call with ⟨missed, _⟩ | ⟨matched, _⟩
      · exact ⟨0, .misses missed⟩
      · rcases (typeless turn scanner).run_of_matched placed builtin matched with
          ⟨text, changed, stands⟩
        have shorter := (stands.afterMatch placed).2
        rw [left] at shorter
        rcases ih _ shorter (placed.afterMatch text) builtin (turn + 1) rfl with ⟨count, rest⟩
        rw [← changed] at rest
        exact ⟨count + 1, .goesOn matched rest⟩

/-- Every match of a loop takes at least one of the characters that are left. -/
theorem EndsAfter.count_le (ends : EndsAfter call choose turn scanner count)
    (typeless : ∀ turn place, (choose turn place).2.ScansTypeless)
    (placed : scanner.WellPlaced) (builtin : scanner.activeMode.IsBuiltin) :
    count ≤ scanner.remaining := by
  induction ends with
  | misses => exact Nat.zero_le _
  | @goesOn turn count scanner matched _ ih =>
      rcases (typeless turn scanner).run_of_matched placed builtin matched with
        ⟨text, changed, stands⟩
      rw [changed] at ih
      calc count + 1 ≤ (scanner.afterMatch text).remaining + 1 :=
            Nat.succ_le_succ (ih (placed.afterMatch text) builtin)
        _ ≤ scanner.remaining := (stands.afterMatch placed).2

end Loops

/-- Under a built-in mode, with any search for patterns that only finds beginnings of texts,
a scan without types never fails with an error.  If it does not match, it leaves the scanner
alone.  If it matches, it moves the cursor on, and less of the text is left; at the end of the
text no option matches.  So a loop that scans until a scan does not match ends, whatever it
scans for in each turn, and after at most as many matches as there were characters left. -/
theorem scans_make_progress {text : String} {scanner : Scanner}
    (reachable : Reachable text scanner) (builtin : scanner.activeMode.IsBuiltin) (call : Call) :
    (∀ {kind : Kind} (command : Command kind), command.ScansTypeless →
      let changed := (command.run call scanner).value.2
      (command.matched? call scanner = some false ∧ changed = scanner) ∨
      (command.matched? call scanner = some true ∧
        scanner.cursor.pos < changed.cursor.pos ∧
        changed.unscannedText.length < scanner.unscannedText.length)) ∧
    (scanner.isAtEnd = true → ∀ option : ScanOption, option.Typeless →
      (scanner.resolve call option).value = .ok .failure) ∧
    (∀ choose : Nat → Scanner → AnyCommand,
      (∀ turn place, (choose turn place).2.ScansTypeless) →
      (∃ count, EndsAfter call choose 0 scanner count) ∧
      ∀ count, EndsAfter call choose 0 scanner count →
        count ≤ text.length - scanner.cursor.pos) ∧
    ComparisonMode.normal.IsBuiltin ∧ ComparisonMode.insensitive.IsBuiltin := by
  have placed := reachable.wellPlaced
  refine ⟨?_, ?_, ?_, ComparisonMode.normal_isBuiltin, ComparisonMode.insensitive_isBuiltin⟩
  · intro kind command typeless changed
    rcases typeless.cases builtin call with missed | ⟨matched, _⟩
    · exact Or.inl missed
    · right
      rcases typeless.run_of_matched placed builtin matched with ⟨consumed, behind, stands⟩
      rcases stands.afterMatch placed with ⟨further, shorter⟩
      rw [← placed.length_unscannedText,
        ← (placed.afterMatch consumed).length_unscannedText] at shorter
      rw [← behind] at further shorter
      exact ⟨matched, further, shorter⟩
  · intro atEnd option typeless
    exact resolve_of_isAtEnd placed builtin atEnd typeless call
  · intro choose typeless
    constructor
    · exact exists_endsAfter typeless placed builtin call 0
    · intro count ends
      rw [← reachable.text_eq]
      exact ends.count_le typeless placed builtin

/-- A loop that takes turns with an enum behind an empty literal and with a pattern that
matches the empty text: two matches, and the end of the text. -/
theorem scans_make_progress_of_optional_letters :
    let scanner := (new "ab AB").performAll (callWithin 1)
      [⟨_, .setComparisonMode "insensitive"⟩, ⟨_, .moveBy 2⟩]
    let blanks : List ScanOption := [.literal "", .enumeration (.literal " a") .null]
    let letters : List ScanOption := (Pattern.compile "b*").toOption.toList.map .pattern
    let choose (turn : Nat) (_ : Scanner) : AnyCommand :=
      ⟨_, .scan (if turn % 2 = 0 then blanks else letters)⟩
    EndsAfter (callWithin 1) choose 0 scanner 2 ∧ 2 ≤ "ab AB".length - scanner.cursor.pos ∧
      scanner.cursor.pos <
        ((Command.scan blanks).run (callWithin 1) scanner).value.2.cursor.pos ∧
      ∀ option ∈ letters,
        ((scanner.moveTo 9).resolve (callWithin 1) option).value = .ok .failure := by
  intro scanner blanks letters choose
  have reachable : Reachable "ab AB" scanner := Reachable.new.performAll 1 _
  have builtin : scanner.activeMode.IsBuiltin := ComparisonMode.insensitive_isBuiltin
  have typeless : ∀ turn place, (choose turn place).2.ScansTypeless := by
    intro turn place
    refine ⟨_, rfl, ?_⟩
    by_cases even : turn % 2 = 0 <;>
      simp [Search.keys, even, blanks, letters, ScanOption.key]
  have ends : EndsAfter (callWithin 1) choose 0 scanner 2 := by
    apply EndsAfter.goesOn (by decide +kernel)
    apply EndsAfter.goesOn (by decide +kernel)
    exact .misses (by decide +kernel)
  rcases scans_make_progress reachable builtin (callWithin 1) with ⟨ofScan, _, ofLoop, _⟩
  have moved : Reachable "ab AB" (scanner.moveTo 9) := reachable.perform 1 (.moveTo 9)
  have movedBuiltin : (scanner.moveTo 9).activeMode.IsBuiltin :=
    ComparisonMode.insensitive_isBuiltin
  rcases scans_make_progress moved movedBuiltin (callWithin 1) with ⟨_, ofEnd, _⟩
  refine ⟨ends, (ofLoop choose typeless).2 2 ends, ?_⟩
  have scanned := ofScan (Command.scan blanks) (typeless 0 scanner)
  have matched : (Command.scan blanks).matched? (callWithin 1) scanner = some true := by
    decide +kernel
  rw [matched] at scanned
  rcases scanned with ⟨missed, _⟩ | ⟨_, further, _⟩
  · cases missed
  · refine ⟨further, ?_⟩
    intro option member
    apply ofEnd (by decide +kernel) option
    simp only [letters, List.mem_map] at member
    rcases member with ⟨pattern, _, rfl⟩
    intro reference ofType
    cases ofType

end Scanner

end TextScanner
