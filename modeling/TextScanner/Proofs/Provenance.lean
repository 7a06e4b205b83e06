import TextScanner.Proofs.FirstDecision

/-!
# Where outcomes come from

A match says which option produced it, what that consumed and what it reports
(`Scanner.Produces`, with one rule for each kind of option).  An option resolves to
nothing but such matches, the failure and errors (`Scanner.produces_iff`), whatever
comparators and routines return.

A list of options ends with the failure if all of them fail, and with a match of the
first option that does not (`Scanner.checkOutcome_eq_ok_iff`).
-/

namespace TextScanner

/-- An option that is neither a type nor an enum over one. -/
def ScanOption.Typeless (option : ScanOption) : Prop :=
  ∀ reference, option.key ≠ .type reference

namespace Scanner

/-- A match that an option produces at the cursor, with all that it carries.  An enum
produces a match of its own from what its key consumes. -/
inductive Produces (call : Call) (scanner : Scanner) : ScanOption → Outcome → Prop
  | literal {candidate text : String} (nonempty : candidate ≠ "")
      (found : scanner.activeMode.literal candidate scanner.unscannedText = some text) :
      Produces call scanner (.literal candidate)
        { matched := true
          kind := some .literal
          key := some (.literal candidate)
          result := some (.string text)
          text := some text }
  | pattern {candidate : Pattern} {text : String} (proper : candidate.isEmpty = false)
      (found : scanner.activeMode.pattern candidate scanner.unscannedText = some text)
      (nonempty : text ≠ "") :
      Produces call scanner (.pattern candidate)
        { matched := true
          kind := some .pattern
          key := some (.pattern candidate)
          result := some (.string text)
          text := some text }
  | type {reference : TypeRef} {routine : Routine} {text : String}
      (registered : scanner.types.find? reference.name = some routine)
      (returned : (call routine reference.args scanner).value.1 = .ok (some text)) :
      Produces call scanner (.type reference)
        { matched := true
          kind := some (.type reference.name)
          key := some (.type reference)
          result := some (.string text)
          text := some text }
  | enumeration {key : EnumKey} {value : Value} {inner : Outcome} {text : String}
      (ofKey : Produces call scanner key.toOption inner)
      (consumed : inner.consumed = some text) :
      Produces call scanner (.enumeration key value)
        { matched := true
          kind := some .enumeration
          key := some key.toOption
          result := some value
          text := some text }

variable {call : Call} {scanner : Scanner} {option : ScanOption} {outcome : Outcome}

/-! ## One option -/

theorem produces_literal {candidate : String}
    (matched : (scanner.resolveLiteral candidate).matched = true) :
    scanner.Produces call (.literal candidate) (scanner.resolveLiteral candidate) := by
  unfold resolveLiteral at matched ⊢
  by_cases empty : candidate = ""
  · simp [empty, Outcome.failure] at matched
  · rw [if_neg empty] at matched ⊢
    cases found : scanner.activeMode.literal candidate scanner.unscannedText with
    | none => simp [found, Outcome.failure] at matched
    | some text => exact .literal empty found

theorem produces_pattern {candidate : Pattern}
    (matched : (scanner.resolvePattern candidate).matched = true) :
    scanner.Produces call (.pattern candidate) (scanner.resolvePattern candidate) := by
  unfold resolvePattern at matched ⊢
  cases proper : candidate.isEmpty with
  | true => simp [proper, Outcome.failure] at matched
  | false =>
      simp only [proper, Bool.false_eq_true, if_false] at matched ⊢
      cases found : scanner.activeMode.pattern candidate scanner.unscannedText with
      | none => simp [found, Outcome.failure] at matched
      | some text =>
          by_cases empty : text = ""
          · simp [found, empty, Outcome.failure] at matched
          · simp only [empty, if_false]
            exact .pattern proper found empty

theorem produces_type {reference : TypeRef}
    (resolved : (scanner.resolveType call reference).value = .ok outcome)
    (matched : outcome.matched = true) : scanner.Produces call (.type reference) outcome := by
  rcases resolveType_eq_ok_iff.mp resolved with ⟨routine, registered, found, returned, rfl⟩
  cases found with
  | none => simp [typeOutcome, Outcome.failure] at matched
  | some text => exact .type registered returned

theorem produces_key {key : EnumKey}
    (resolved : (scanner.resolveKey call key).value = .ok outcome)
    (matched : outcome.matched = true) : scanner.Produces call key.toOption outcome := by
  cases key with
  | literal candidate =>
      obtain rfl := Except.ok.inj resolved
      exact produces_literal matched
  | pattern candidate =>
      obtain rfl := Except.ok.inj resolved
      exact produces_pattern matched
  | type reference => exact produces_type resolved matched

/-- What an outcome consumes, it matched. -/
theorem matched_of_consumed {text : String} (consumed : outcome.consumed = some text) :
    outcome.matched = true := by
  cases matched : outcome.matched with
  | true => rfl
  | false => simp [Outcome.consumed, matched] at consumed

theorem produces_enumeration {key : EnumKey} {value : Value}
    (resolved : (scanner.resolveEnum call key value).value = .ok outcome)
    (matched : outcome.matched = true) :
    scanner.Produces call (.enumeration key value) outcome := by
  rcases resolveEnum_eq_ok_iff.mp resolved with ⟨inner, ofKey, rfl⟩
  unfold enumOutcome at matched ⊢
  cases consumed : inner.consumed with
  | none => simp [consumed, Outcome.failure] at matched
  | some text =>
      exact .enumeration (produces_key ofKey (matched_of_consumed consumed)) consumed

/-- As a plain option, the key of an enum resolves as it does in the enum. -/
theorem value_resolve_toOption (call : Call) (scanner : Scanner) (key : EnumKey) :
    (scanner.resolve call key.toOption).value = (scanner.resolveKey call key).value := by
  cases key <;> rfl

/-- The matches that an option resolves to are those that it produces. -/
theorem produces_iff :
    scanner.Produces call option outcome ↔
      (scanner.resolve call option).value = .ok outcome ∧ outcome.matched = true := by
  constructor
  · intro produced
    refine ⟨?_, by cases produced <;> rfl⟩
    rw [Search.value_resolve]
    induction produced with
    | literal nonempty found => simp [Search.ofOption, Search.outcome, resolveLiteral, nonempty,
        found, Outcome.success, Outcome.substituted]
    | pattern proper found nonempty => simp [Search.ofOption, Search.outcome, resolvePattern,
        proper, found, nonempty, Outcome.success, Outcome.substituted]
    | type registered returned =>
        exact resolveType_eq_ok_iff.mpr ⟨_, registered, _, returned, rfl⟩
    | @enumeration key value inner text ofKey consumed ih =>
        rw [← Search.value_resolve, value_resolve_toOption] at ih
        apply resolveEnum_eq_ok_iff.mpr
        refine ⟨inner, ih, ?_⟩
        rw [enumOutcome, consumed]
        rfl
  · rintro ⟨resolved, matched⟩
    rcases option.toKey?_cases with ⟨key, rfl, _⟩ | ⟨key, value, rfl, _⟩
    · rw [value_resolve_toOption] at resolved
      exact produces_key resolved matched
    · rw [Search.value_resolve] at resolved
      exact produces_enumeration resolved matched

/-- An option that does not decide fails without an error. -/
theorem not_decisive_resolve_iff :
    decisive (scanner.resolve call option).value = false ↔
      (scanner.resolve call option).value = .ok .failure := by
  constructor
  · intro undecided
    cases resolved : (scanner.resolve call option).value with
    | error error => simp [resolved, decisive] at undecided
    | ok outcome =>
        rw [Search.value_resolve] at resolved
        have unmatched : outcome.matched = false := by
          simpa [Search.value_resolve, resolved, decisive] using undecided
        rw [(Search.wellFormed_of_outcome _ resolved).eq_failure unmatched]
  · intro failed
    rw [failed]
    rfl

/-! ## Lists of options -/

/-- Options before the first one that produces a match fail. -/
def ProducesFirst (call : Call) (scanner : Scanner) (options : List ScanOption)
    (outcome : Outcome) : Prop :=
  ∃ before option after, options = before ++ option :: after ∧
    (∀ earlier ∈ before, (scanner.resolve call earlier).value = .ok .failure) ∧
    scanner.Produces call option outcome

theorem ProducesFirst.cons {options : List ScanOption}
    (failed : (scanner.resolve call option).value = .ok .failure)
    (produces : scanner.ProducesFirst call options outcome) :
    scanner.ProducesFirst call (option :: options) outcome := by
  rcases produces with ⟨before, first, after, rfl, passed, produced⟩
  exact ⟨option :: before, first, after, rfl, List.forall_mem_cons.mpr ⟨failed, passed⟩, produced⟩

/-- A list has the outcome that its first option produces that does not fail, and fails
if there is none. -/
theorem checkOutcome_eq_ok_iff {options : List ScanOption} :
    (scanner.checkOutcome call options).value = .ok outcome ↔
      (outcome = .failure ∧
        ∀ option ∈ options, (scanner.resolve call option).value = .ok .failure) ∨
      scanner.ProducesFirst call options outcome := by
  constructor
  · intro checked
    induction options with
    | nil => exact Or.inl ⟨(Except.ok.inj checked).symm, by simp⟩
    | cons option rest ih =>
        rw [checkOutcome_cons, Attempt.value_orTry] at checked
        cases decides : decisive (scanner.resolve call option).value with
        | true =>
            rw [if_pos decides] at checked
            rw [checked] at decides
            exact Or.inr ⟨[], option, rest, rfl, by simp, produces_iff.mpr ⟨checked, decides⟩⟩
        | false =>
            rw [if_neg (by simp [decides])] at checked
            have failed := not_decisive_resolve_iff.mp decides
            rcases ih checked with ⟨isFailure, allFailed⟩ | produces
            · exact Or.inl ⟨isFailure, List.forall_mem_cons.mpr ⟨failed, allFailed⟩⟩
            · exact Or.inr (produces.cons failed)
  · rintro (⟨rfl, allFailed⟩ | ⟨before, option, after, rfl, passed, produced⟩)
    · have undecided : (options.map fun option =>
          (scanner.resolve call option).value).find? decisive = none := by
        simpa [not_decisive_resolve_iff] using allFailed
      rw [value_checkOutcome_eq_find?, undecided]
      rfl
    · rcases produces_iff.mp produced with ⟨resolved, matched⟩
      have undecided : ∀ earlier ∈ before,
          decisive (scanner.resolve call earlier).value = false := by
        intro earlier member
        exact not_decisive_resolve_iff.mpr (passed earlier member)
      have decides : decisive (scanner.resolve call option).value = true := by
        rw [resolved]
        exact matched
      exact (value_checkOutcome_of_first undecided decides after).trans resolved

/-- A scan has the outcome of a check. -/
theorem scanOutcome_eq_ok_iff {options : List ScanOption} :
    (∃ changed, (scanner.scanOutcome call options).value = .ok (outcome, changed)) ↔
      (scanner.checkOutcome call options).value = .ok outcome := by
  rw [value_scanOutcome]
  constructor
  · rintro ⟨changed, scanned⟩
    rcases map_eq_ok_iff.mp scanned with ⟨_, checked, same⟩
    rcases Prod.mk.inj same with ⟨rfl, _⟩
    exact checked
  · intro checked
    exact ⟨_, map_eq_ok_iff.mpr ⟨outcome, checked, rfl⟩⟩

/-! ## Options without types -/

/-- A key that is no type is resolved without an error, as no routine is run for it. -/
theorem exists_resolveKey (call : Call) (scanner : Scanner) {key : EnumKey}
    (noType : ∀ reference, key ≠ .type reference) :
    ∃ inner, (scanner.resolveKey call key).value = .ok inner := by
  cases key with
  | literal | pattern => exact ⟨_, rfl⟩
  | type reference => exact absurd rfl (noType reference)

theorem exists_resolve_of_typeless (call : Call) (scanner : Scanner)
    (typeless : option.Typeless) :
    ∃ outcome, (scanner.resolve call option).value = .ok outcome := by
  rcases exists_resolveKey call scanner typeless with ⟨inner, resolved⟩
  cases option with
  | literal | pattern => exact ⟨inner, resolved⟩
  | type reference => exact absurd rfl (typeless reference)
  | enumeration key value => exact ⟨_, resolveEnum_eq_ok_iff.mpr ⟨inner, resolved, rfl⟩⟩

theorem exists_checkOutcome_of_typeless (call : Call) (scanner : Scanner)
    {options : List ScanOption} (typeless : ∀ option ∈ options, option.Typeless) :
    ∃ outcome, (scanner.checkOutcome call options).value = .ok outcome := by
  induction options with
  | nil => exact ⟨.failure, rfl⟩
  | cons option rest ih =>
      rcases List.forall_mem_cons.mp typeless with ⟨typelessFirst, typelessRest⟩
      rw [checkOutcome_cons, Attempt.value_orTry]
      split
      · exact exists_resolve_of_typeless call scanner typelessFirst
      · exact ih typelessRest

/-- A match names no enum as what it matched, but the key of one. -/
theorem Produces.key_ne_enumeration (produced : scanner.Produces call option outcome)
    (key : EnumKey) (value : Value) : outcome.key ≠ some (.enumeration key value) := by
  cases produced with
  | @enumeration inner => cases inner <;> simp [EnumKey.toOption]
  | _ => simp

/-- A check or a scan of a list gives an outcome just if that is the failure, and all
options fail, or a match that one of them produces, and those before it fail.  In either
case the outcome carries nothing or everything, its text is what it consumed, and it names
no enum as its key. -/
theorem outcomes_are_traceable (call : Call) (scanner : Scanner) (options : List ScanOption)
    (outcome : Outcome) :
    let traced :=
      (outcome = .failure ∧
        ∀ option ∈ options, (scanner.resolve call option).value = .ok .failure) ∨
      scanner.ProducesFirst call options outcome
    ((scanner.checkOutcome call options).value = .ok outcome ↔ traced) ∧
    ((∃ changed, (scanner.scanOutcome call options).value = .ok (outcome, changed)) ↔ traced) ∧
    (traced → outcome.WellFormed ∧ outcome.consumed = outcome.text ∧
      ∀ key value, outcome.key ≠ some (.enumeration key value)) := by
  intro traced
  have checks : (scanner.checkOutcome call options).value = .ok outcome ↔ traced :=
    checkOutcome_eq_ok_iff
  refine ⟨checks, scanOutcome_eq_ok_iff.trans checks, ?_⟩
  intro isTraced
  have wellFormed : outcome.WellFormed :=
    Search.wellFormed_of_outcome (.firstOf options) (checks.mpr isTraced)
  refine ⟨wellFormed, wellFormed.consumed_eq, ?_⟩
  rcases isTraced with ⟨rfl, _⟩ | ⟨_, _, _, _, _, produced⟩
  · simp [Outcome.failure]
  · exact produced.key_ne_enumeration

/-- Under a mode that finds every literal: an enum that reports null for a type that matches
the empty text, behind an empty literal and a type that matches nothing. -/
theorem outcomes_are_traceable_of_blank_type :
    let echo : ComparisonMode :=
      { literal := fun candidate _ => some candidate, pattern := fun _ _ => none }
    let blank : Routine := fun _ => .finish (.ok (some ""))
    let absent : Routine := fun _ => .perform (.moveBy 1) fun _ => .finish (.ok none)
    let scanner := (new "añb").performAll (callWithin 2)
      [⟨_, .addType "blank" blank⟩, ⟨_, .addType "absent" absent⟩,
        ⟨_, .addComparisonMode "echo" echo⟩, ⟨_, .setComparisonMode "echo"⟩]
    let options : List ScanOption :=
      [.literal "", .type ⟨"absent", []⟩, .enumeration (.type ⟨"blank", []⟩) .null, .literal "zz"]
    let outcome : Outcome :=
      { matched := true
        kind := some .enumeration
        key := some (.type ⟨"blank", []⟩)
        result := some .null
        text := some "" }
    (scanner.checkOutcome (callWithin 2) options).value = .ok outcome ∧
      (∃ changed, (scanner.scanOutcome (callWithin 2) options).value = .ok (outcome, changed)) ∧
      outcome.consumed = outcome.text := by
  intro echo blank absent scanner options outcome
  have registered : scanner.types.find? "blank" = some blank := rfl
  have ofKey : scanner.Produces (callWithin 2) (.type ⟨"blank", []⟩)
      (.success (.type "blank") (.type ⟨"blank", []⟩) "") := .type registered rfl
  have produced : scanner.Produces (callWithin 2)
      (.enumeration (.type ⟨"blank", []⟩) .null) outcome := .enumeration ofKey rfl
  have passed : ∀ earlier ∈ ([.literal "", .type ⟨"absent", []⟩] : List ScanOption),
      (scanner.resolve (callWithin 2) earlier).value = .ok .failure := by
    intro earlier member
    simp only [List.mem_cons, List.not_mem_nil, or_false] at member
    rcases member with rfl | rfl <;> rfl
  have first : scanner.ProducesFirst (callWithin 2) options outcome :=
    ⟨_, _, [.literal "zz"], rfl, passed, produced⟩
  rcases outcomes_are_traceable (callWithin 2) scanner options outcome with
    ⟨ofCheck, ofScan, ofTraced⟩
  exact ⟨ofCheck.mpr (Or.inr first), ofScan.mpr (Or.inr first), (ofTraced (Or.inr first)).2.1⟩

end Scanner

end TextScanner
