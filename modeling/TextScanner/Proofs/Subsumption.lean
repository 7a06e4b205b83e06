import TextScanner.Proofs.Lowering
import TextScanner.Proofs.Provenance

/-!
# Ignoring case finds all that is found otherwise

A beginning of the text that is spelled like a literal has the small form of the literal,
so a literal that is found where case matters is found where it does not, and consumes the
same (`ComparisonMode.insensitive_literal_of_normal`).

In a list the first match wins, and an option that only matches without regard to case may
stand before the one that matches with regard to it.  So the place of the winner may move
towards the front, but never back, and an option that stays the winner has the same outcome
(`Scanner.MatchesFirstAt.exists_le`).
-/

namespace TextScanner

/-- What a literal consumes where case matters, it consumes where case is ignored. -/
theorem ComparisonMode.insensitive_literal_of_normal {candidate text found : String}
    (matched : normal.literal candidate text = some found) :
    insensitive.literal candidate text = some found := by
  simp only [normal] at matched
  split at matched
  · rename_i begins
    obtain rfl := Option.some.inj matched
    exact insensitive_literal_eq_some_iff.mpr ⟨List.isPrefixOf_iff_prefix.mp begins, rfl⟩
  · nomatch matched

namespace Scanner

variable {call : Call} {scanner other : Scanner} {option : ScanOption} {outcome : Outcome}
  {options : List ScanOption} {place : Nat}

/-! ## The place of the first match -/

/-- An option matches first at a place in a list, counted from zero, if it produces a match
and those before it fail. -/
inductive MatchesFirstAt (call : Call) (scanner : Scanner) :
    List ScanOption → Nat → Outcome → Prop
  | here {option : ScanOption} {outcome : Outcome} (rest : List ScanOption)
      (produced : scanner.Produces call option outcome) :
      MatchesFirstAt call scanner (option :: rest) 0 outcome
  | later {option : ScanOption} {rest : List ScanOption} {place : Nat} {outcome : Outcome}
      (failed : (scanner.resolve call option).value = .ok .failure)
      (behind : MatchesFirstAt call scanner rest place outcome) :
      MatchesFirstAt call scanner (option :: rest) (place + 1) outcome

theorem MatchesFirstAt.producesFirst (first : scanner.MatchesFirstAt call options place outcome) :
    scanner.ProducesFirst call options outcome := by
  induction first with
  | here rest produced => exact ⟨[], _, rest, rfl, by simp, produced⟩
  | later failed _ ih => exact ih.cons failed

theorem ProducesFirst.exists_place (first : scanner.ProducesFirst call options outcome) :
    ∃ place, scanner.MatchesFirstAt call options place outcome := by
  rcases first with ⟨before, option, after, rfl, passed, produced⟩
  induction before with
  | nil => exact ⟨0, .here after produced⟩
  | cons earlier before ih =>
      rcases List.forall_mem_cons.mp passed with ⟨failed, passedRest⟩
      rcases ih passedRest with ⟨place, first⟩
      exact ⟨place + 1, .later failed first⟩

/-- A match of a list is the first match of one of its options. -/
theorem checkOutcome_matches_iff :
    ((scanner.checkOutcome call options).value = .ok outcome ∧ outcome.matched = true) ↔
      ∃ place, scanner.MatchesFirstAt call options place outcome := by
  rw [checkOutcome_eq_ok_iff]
  constructor
  · rintro ⟨⟨rfl, _⟩ | first, matched⟩
    · nomatch matched
    · exact first.exists_place
  · rintro ⟨place, first⟩
    rcases first.producesFirst with ⟨_, _, _, _, _, produced⟩
    exact ⟨Or.inr first.producesFirst, (produces_iff.mp produced).2⟩

/-! ## Scanners that find all that another one finds -/

/-- A scanner finds all that another one finds by an option, and is never stopped by it. -/
structure Subsumes (call : Call) (scanner other : Scanner) (option : ScanOption) : Prop where
  produces : ∀ ⦃outcome : Outcome⦄,
    scanner.Produces call option outcome → other.Produces call option outcome
  resolves : ∃ outcome, (other.resolve call option).value = .ok outcome

/-- An option that is never an error produces a match or fails. -/
theorem Subsumes.produces_or_fails (subsumes : Subsumes call scanner other option) :
    (∃ outcome, other.Produces call option outcome) ∨
      (other.resolve call option).value = .ok .failure := by
  rcases subsumes.resolves with ⟨outcome, resolved⟩
  cases matched : outcome.matched with
  | true => exact Or.inl ⟨outcome, produces_iff.mpr ⟨resolved, matched⟩⟩
  | false =>
      right
      apply not_decisive_resolve_iff.mp
      rw [resolved]
      exact matched

/-- The first match of a list is not further back for a scanner that finds more, and if it is
at the same place, it is the same. -/
theorem MatchesFirstAt.exists_le
    (subsumes : ∀ option ∈ options, Subsumes call scanner other option)
    (first : scanner.MatchesFirstAt call options place outcome) :
    ∃ earlier found, earlier ≤ place ∧ other.MatchesFirstAt call options earlier found ∧
      (earlier = place → found = outcome) := by
  induction first with
  | here rest produced =>
      have produces := (subsumes _ (.head _)).produces produced
      exact ⟨0, _, Nat.le_refl 0, .here rest produces, fun _ => rfl⟩
  | @later option rest place outcome _ _ ih =>
      rcases List.forall_mem_cons.mp subsumes with ⟨subsumesFirst, subsumesRest⟩
      rcases subsumesFirst.produces_or_fails with ⟨found, produced⟩ | failed
      · -- an option that failed before has become the first match
        exact ⟨0, found, Nat.zero_le _, .here rest produced, fun same => nomatch same⟩
      · rcases ih subsumesRest with ⟨earlier, found, notBehind, behind, same⟩
        refine ⟨earlier + 1, found, Nat.succ_le_succ notBehind, .later failed behind, ?_⟩
        intro samePlace
        exact same (Nat.succ.inj samePlace)

/-- Where nothing is found by a list, nothing was found by the scanner that finds less. -/
theorem checkOutcome_failure_of_subsumes
    (subsumes : ∀ option ∈ options, Subsumes call scanner other option)
    (resolves : ∃ outcome, (scanner.checkOutcome call options).value = .ok outcome)
    (failed : (other.checkOutcome call options).value = .ok .failure) :
    (scanner.checkOutcome call options).value = .ok .failure := by
  rcases resolves with ⟨outcome, checked⟩
  cases matched : outcome.matched with
  | false =>
      have wellFormed := Search.wellFormed_of_outcome (.firstOf options) checked
      rw [checked, wellFormed.eq_failure matched]
  | true =>
      rcases checkOutcome_matches_iff.mp ⟨checked, matched⟩ with ⟨place, first⟩
      rcases first.exists_le subsumes with ⟨earlier, found, _, otherFirst, _⟩
      rcases checkOutcome_matches_iff.mpr ⟨earlier, otherFirst⟩ with ⟨otherChecked, found⟩
      rw [failed] at otherChecked
      rw [← Except.ok.inj otherChecked] at found
      nomatch found

/-! ## Literals under the two built-in modes -/

/-- Literals and enums over them run no routines. -/
theorem typeless_of_literal {candidate : String} (ofLiteral : option.key = .literal candidate) :
    option.Typeless := by
  intro reference ofType
  rw [ofLiteral] at ofType
  nomatch ofType

/-- A scanner whose mode finds the literals that another mode finds in the same text finds all
that the other scanner finds by literals. -/
theorem subsumes_of_literal {candidate : String} (ofLiteral : option.key = .literal candidate)
    (finds : ∀ ⦃candidate found : String⦄,
      scanner.activeMode.literal candidate scanner.unscannedText = some found →
        other.activeMode.literal candidate other.unscannedText = some found) (call : Call) :
    Subsumes call scanner other option where
  produces := by
    intro outcome produced
    cases produced with
    | literal nonempty found => exact .literal nonempty (finds found)
    | pattern | type => nomatch ofLiteral
    | @enumeration key value inner text ofKey consumed =>
        obtain rfl : key = .literal candidate := ofLiteral
        cases ofKey with
        | literal nonempty found => exact .enumeration (.literal nonempty (finds found)) consumed
  resolves := exists_resolve_of_typeless call other (typeless_of_literal ofLiteral)

/-- Let two scanners be equal but for their comparison modes, and let case matter in one and
be ignored in the other, and try a list of literals and enums over literals on both.  If an
option matches first where case matters, then that option or one before it matches first
where case is ignored, and if it is the same option, the outcomes are equal, with all that
they consume.  Neither scanner fails with an error, and a list of which nothing matches
where case is ignored does not match where it matters. -/
theorem insensitive_list_subsumes_normal {scanner other : Scanner}
    (equal : other =
      { scanner with
        comparisonMode := other.comparisonMode
        comparisonModes := other.comparisonModes })
    (sensitive : scanner.activeMode = .normal) (insensitive : other.activeMode = .insensitive)
    (call : Call) {options : List ScanOption}
    (literals : ∀ option ∈ options, ∃ candidate, option.key = .literal candidate) :
    (∀ place outcome, scanner.MatchesFirstAt call options place outcome →
      (scanner.checkOutcome call options).value = .ok outcome ∧
      ∃ earlier found, earlier ≤ place ∧
        other.MatchesFirstAt call options earlier found ∧
        (other.checkOutcome call options).value = .ok found ∧
        (earlier = place → found = outcome)) ∧
    (∃ outcome, (scanner.checkOutcome call options).value = .ok outcome ∧
      (outcome.matched = true → ∃ place, scanner.MatchesFirstAt call options place outcome)) ∧
    (∃ found, (other.checkOutcome call options).value = .ok found) ∧
    ((other.checkOutcome call options).value = .ok .failure →
      (scanner.checkOutcome call options).value = .ok .failure) := by
  have sameText : other.unscannedText = scanner.unscannedText := by rw [equal]; rfl
  have subsumes : ∀ option ∈ options, Subsumes call scanner other option := by
    intro option member
    rcases literals option member with ⟨candidate, ofLiteral⟩
    apply subsumes_of_literal ofLiteral
    intro candidate found matched
    rw [sensitive] at matched
    rw [insensitive, sameText]
    exact ComparisonMode.insensitive_literal_of_normal matched
  have typeless : ∀ option ∈ options, option.Typeless := by
    intro option member
    rcases literals option member with ⟨candidate, ofLiteral⟩
    exact typeless_of_literal ofLiteral
  have resolves := exists_checkOutcome_of_typeless call scanner typeless
  refine ⟨?_, ?_, exists_checkOutcome_of_typeless call other typeless,
    checkOutcome_failure_of_subsumes subsumes resolves⟩
  · intro place outcome first
    rcases first.exists_le subsumes with ⟨earlier, found, notBehind, otherFirst, same⟩
    have checked := (checkOutcome_matches_iff.mpr ⟨place, first⟩).1
    have otherChecked := (checkOutcome_matches_iff.mpr ⟨earlier, otherFirst⟩).1
    exact ⟨checked, earlier, found, notBehind, otherFirst, otherChecked, same⟩
  · rcases resolves with ⟨outcome, checked⟩
    refine ⟨outcome, checked, ?_⟩
    intro matched
    exact checkOutcome_matches_iff.mp ⟨checked, matched⟩

/-- The capital dotted I is found as such where case matters, and by the two small letters of
its small form, earlier in the list, where case is ignored. -/
theorem insensitive_list_subsumes_normal_of_dotted_capital :
    let scanner := (new "a\u0130x").performAll (callWithin 1) [⟨_, .moveBy 1⟩]
    let other := scanner.performAll (callWithin 1) [⟨_, .setComparisonMode "insensitive"⟩]
    let options : List ScanOption :=
      [.literal "", .literal "I", .enumeration (.literal "i\u0307X") .null, .literal "\u0130"]
    let absent : List ScanOption := [.literal "I", .literal "y"]
    let outcome : Outcome := .success .literal (.literal "\u0130") "\u0130"
    scanner.MatchesFirstAt (callWithin 1) options 3 outcome ∧
      (∃ earlier found, earlier ≤ 3 ∧
        other.MatchesFirstAt (callWithin 1) options earlier found ∧
        (other.checkOutcome (callWithin 1) options).value = .ok found ∧
        (earlier = 3 → found = outcome)) ∧
      (other.checkOutcome (callWithin 1) options).value.toOption.map Outcome.text =
        some (some "\u0130x") ∧
      (scanner.checkOutcome (callWithin 1) absent).value = .ok .failure := by
  intro scanner other options absent outcome
  have equal : other =
      { scanner with
        comparisonMode := other.comparisonMode
        comparisonModes := other.comparisonModes } := rfl
  have sensitive : scanner.activeMode = .normal := rfl
  have insensitive : other.activeMode = .insensitive := rfl
  have first : scanner.MatchesFirstAt (callWithin 1) options 3 outcome := by
    apply MatchesFirstAt.later (not_decisive_resolve_iff.mp (by decide +kernel))
    apply MatchesFirstAt.later (not_decisive_resolve_iff.mp (by decide +kernel))
    apply MatchesFirstAt.later (not_decisive_resolve_iff.mp (by decide +kernel))
    exact .here [] (.literal (by decide) (by decide +kernel))
  have literals : ∀ option ∈ options, ∃ candidate, option.key = .literal candidate := by
    simp [options, ScanOption.key]
  have absentLiterals : ∀ option ∈ absent, ∃ candidate, option.key = .literal candidate := by
    simp [absent, ScanOption.key]
  have failed : (other.checkOutcome (callWithin 1) absent).value = .ok .failure := by
    apply checkOutcome_eq_ok_iff.mpr
    refine Or.inl ⟨rfl, ?_⟩
    intro option member
    simp only [absent, List.mem_cons, List.not_mem_nil, or_false] at member
    rcases member with rfl | rfl
    · exact not_decisive_resolve_iff.mp (by decide +kernel)
    · exact not_decisive_resolve_iff.mp (by decide +kernel)
  rcases insensitive_list_subsumes_normal equal sensitive insensitive
    (callWithin 1) literals with ⟨ofMatch, _⟩
  rcases insensitive_list_subsumes_normal equal sensitive insensitive
    (callWithin 1) absentLiterals with ⟨_, _, _, ofFailure⟩
  refine ⟨first, (ofMatch 3 outcome first).2, ?_, ofFailure failed⟩
  decide +kernel

end Scanner

end TextScanner
