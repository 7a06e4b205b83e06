import TextScanner.Proofs.Commit
import TextScanner.Proofs.Lowering

/-!
# Honest modes and types

What a comparator or a routine returns is taken for the text that was matched,
whether or not it stands behind the cursor.  A mode is honest if its comparators
return beginnings of the texts they are given, and a type is if its routine
returns beginnings of the texts behind the cursors of its scanners.

Both modes that are built in are honest.  With honest modes and types, every
match consumes a beginning of the text behind the cursor
(`Scanner.Honest.consumesAt`).
-/

namespace TextScanner

/-! ## Modes -/

/-- A mode whose comparators return beginnings of the texts they are given. -/
structure ComparisonMode.Honest (mode : ComparisonMode) : Prop where
  literal : ∀ ⦃candidate rest found : String⦄,
    mode.literal candidate rest = some found → found.toList <+: rest.toList
  pattern : ∀ ⦃candidate : Pattern⦄ ⦃rest found : String⦄,
    mode.pattern candidate rest = some found → found.toList <+: rest.toList

namespace ComparisonMode

theorem of_nonEmpty_eq_some {found : Option String} {text : String}
    (kept : nonEmpty found = some text) : found = some text :=
  Option.eq_some_of_filter_eq_some kept

theorem normal_literal_isPrefix {candidate rest found : String}
    (matched : normal.literal candidate rest = some found) : found.toList <+: rest.toList := by
  simp only [normal] at matched
  split at matched
  · rename_i begins
    obtain rfl := Option.some.inj matched
    exact List.isPrefixOf_iff_prefix.mp begins
  · simp at matched

theorem insensitive_literal_isPrefix {candidate rest found : String}
    (matched : insensitive.literal candidate rest = some found) :
    found.toList <+: rest.toList :=
  (insensitive_literal_eq_some_iff.mp matched).1

/-- A search for patterns in texts that only finds beginnings of the texts. -/
def Anchored (search : Pattern → String → Option String) : Prop :=
  ∀ ⦃candidate : Pattern⦄ ⦃rest found : String⦄,
    search candidate rest = some found → found.toList <+: rest.toList

/-- A mode with the literals of another one and a search for patterns. -/
def searching (mode : ComparisonMode) (search : Pattern → String → Option String) :
    ComparisonMode :=
  { mode with pattern := fun candidate text => nonEmpty (search candidate text) }

/-- Whatever search the mode in which case matters makes for patterns, it is
honest if the search is anchored. -/
theorem normal_searching_honest {search : Pattern → String → Option String}
    (anchored : Anchored search) : (normal.searching search).Honest where
  literal := by
    intro candidate rest found matched
    exact normal_literal_isPrefix matched
  pattern := by
    intro candidate rest found matched
    exact anchored (of_nonEmpty_eq_some matched)

theorem insensitive_searching_honest {search : Pattern → String → Option String}
    (anchored : Anchored search) : (insensitive.searching search).Honest where
  literal := by
    intro candidate rest found matched
    exact insensitive_literal_isPrefix matched
  pattern := by
    intro candidate rest found matched
    exact anchored (of_nonEmpty_eq_some matched)

theorem findPrefix?_anchored : Anchored Pattern.findPrefix? := by
  intro candidate rest found matched
  exact Pattern.Program.find?_isPrefix matched

theorem findPrefixFolded?_anchored : Anchored Pattern.findPrefixFolded? := by
  intro candidate rest found matched
  exact Pattern.Program.find?_isPrefix matched

theorem normal_honest : normal.Honest :=
  normal_searching_honest findPrefix?_anchored

theorem insensitive_honest : insensitive.Honest :=
  insensitive_searching_honest findPrefixFolded?_anchored

/-- The modes that every scanner starts with are honest. -/
theorem honest_of_builtin {name : String} {mode : ComparisonMode}
    (registered : (Table.ofList builtins).find? name = some mode) : mode.Honest := by
  change ((Table.empty.insert normalName normal).insert insensitiveName insensitive).find?
    name = some mode at registered
  rcases Table.find?_insert_cases registered with rfl | earlier
  · exact insensitive_honest
  · rcases Table.find?_insert_cases earlier with rfl | absent
    · exact normal_honest
    · simp at absent

end ComparisonMode

/-! ## Scanners -/

namespace Scanner

/-- A scanner for the same text and with the same registries, pointers and data,
whose cursors may be elsewhere and whose comparison mode may be another one. -/
def Elsewhere (home place : Scanner) : Prop :=
  place =
    { home with
      cursor := place.cursor
      undoCursor := place.undoCursor
      comparisonMode := place.comparisonMode }

theorem Elsewhere.refl (scanner : Scanner) : scanner.Elsewhere scanner :=
  rfl

theorem Elsewhere.trans {home place further : Scanner} (first : home.Elsewhere place)
    (second : place.Elsewhere further) : home.Elsewhere further := by
  rw [Elsewhere, second, first]

theorem Elsewhere.text_eq {home place : Scanner} (elsewhere : home.Elsewhere place) :
    place.text = home.text := by
  rw [elsewhere]

/-- A routine that, wherever the cursor of a scanner is, returns a beginning of
the text behind it, nothing, or an error. -/
def HonestRoutine (call : Call) (scanner : Scanner) (routine : Routine) : Prop :=
  ∀ ⦃place : Scanner⦄, scanner.Elsewhere place → place.WellPlaced →
    ∀ ⦃args : List Value⦄ ⦃found : String⦄,
      (call routine args place).value.1 = .ok (some found) →
        found.toList <+: place.unscannedText.toList

/-- A scanner whose registered modes and types are honest. -/
structure Honest (call : Call) (scanner : Scanner) : Prop where
  modes : ∀ ⦃name : String⦄ ⦃mode : ComparisonMode⦄,
    scanner.comparisonModes.find? name = some mode → mode.Honest
  types : ∀ ⦃name : String⦄ ⦃routine : Routine⦄,
    scanner.types.find? name = some routine → scanner.HonestRoutine call routine

variable {call : Call} {scanner place : Scanner}

theorem Honest.elsewhere (honest : scanner.Honest call) (elsewhere : scanner.Elsewhere place) :
    place.Honest call where
  modes := by
    intro name mode registered
    rw [elsewhere] at registered
    exact honest.modes registered
  types := by
    intro name routine registered further elsewhereFurther
    rw [elsewhere] at registered
    exact honest.types registered (elsewhere.trans elsewhereFurther)

theorem Honest.activeMode (honest : scanner.Honest call) : scanner.activeMode.Honest := by
  unfold Scanner.activeMode
  cases selected : scanner.comparisonModes.find? scanner.comparisonMode with
  | none => exact ComparisonMode.normal_honest
  | some mode => exact honest.modes selected

/-! ## What matches consume -/

/-- An outcome that consumes, if anything, a beginning of the text behind the
cursor. -/
def ConsumesAt (scanner : Scanner) (outcome : Outcome) : Prop :=
  ∀ ⦃text : String⦄, outcome.consumed = some text →
    text.toList <+: scanner.unscannedText.toList

theorem failure_consumesAt (scanner : Scanner) : scanner.ConsumesAt .failure := by
  intro text consumed
  simp [Outcome.consumed, Outcome.failure] at consumed

theorem success_consumesAt {text : String} (begins : text.toList <+: scanner.unscannedText.toList)
    (kind : MatchKind) (key : ScanOption) : scanner.ConsumesAt (.success kind key text) := by
  intro other consumed
  obtain rfl := Option.some.inj consumed
  exact begins

theorem resolveLiteral_consumesAt (honest : scanner.activeMode.Honest) (candidate : String) :
    scanner.ConsumesAt (scanner.resolveLiteral candidate) := by
  unfold resolveLiteral
  split
  · exact scanner.failure_consumesAt
  · cases compared : scanner.activeMode.literal candidate scanner.unscannedText with
    | none => exact scanner.failure_consumesAt
    | some text => exact success_consumesAt (honest.literal compared) _ _

theorem resolvePattern_consumesAt (honest : scanner.activeMode.Honest) (candidate : Pattern) :
    scanner.ConsumesAt (scanner.resolvePattern candidate) := by
  unfold resolvePattern
  split
  · exact scanner.failure_consumesAt
  · cases compared : scanner.activeMode.pattern candidate scanner.unscannedText with
    | none => exact scanner.failure_consumesAt
    | some text =>
        simp only
        split
        · exact scanner.failure_consumesAt
        · exact success_consumesAt (honest.pattern compared) _ _

theorem Honest.resolveKey_consumesAt (honest : scanner.Honest call)
    (placed : scanner.WellPlaced) {key : EnumKey} {outcome : Outcome}
    (resolved : (scanner.resolveKey call key).value = .ok outcome) :
    scanner.ConsumesAt outcome := by
  cases key with
  | literal candidate =>
      obtain rfl := Except.ok.inj resolved
      exact resolveLiteral_consumesAt honest.activeMode candidate
  | pattern candidate =>
      obtain rfl := Except.ok.inj resolved
      exact resolvePattern_consumesAt honest.activeMode candidate
  | type reference =>
      rcases resolveType_eq_ok_iff.mp resolved with ⟨routine, registered, found, returned, rfl⟩
      intro text consumed
      rw [consumed_typeOutcome] at consumed
      subst consumed
      exact honest.types registered (Elsewhere.refl scanner) placed returned

/-- With honest modes and types, what a search consumes stands behind the cursor. -/
theorem Honest.consumesAt (honest : scanner.Honest call) (placed : scanner.WellPlaced)
    (search : Search) {outcome : Outcome}
    (searched : search.outcome call scanner = .ok outcome) : scanner.ConsumesAt outcome := by
  rcases search.outcome_cases searched with
    rfl | ⟨key, inner, resolved, rfl | ⟨value, rfl⟩⟩
  · exact scanner.failure_consumesAt
  · exact honest.resolveKey_consumesAt placed resolved
  · intro text consumed
    rw [consumed_enumOutcome] at consumed
    exact honest.resolveKey_consumesAt placed resolved consumed

end Scanner

end TextScanner
