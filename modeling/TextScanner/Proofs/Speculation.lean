import Mathlib.Control.Monad.Basic
import TextScanner.Proofs.Trying

/-!
# Committing a type is running it

A routine moves its copy of the scanner match by match, while the scanner moves
once, over the text that the routine returns.  A routine that only tries, and
returns what its scans consumed, leads its copy to the place where the scanner
ends up (`Scanner.afterMatch_eq_resumedAt`).

The law needs no more of the types that the routine tries than that they return
beginnings of the texts behind the cursor, as types with such routines do
themselves.  So it holds of types that try types, to any depth.
-/

namespace TextScanner

namespace Scanner

/-- A script that only tries on a scanner, finds what it consumes behind the
cursor, and finishes with all that it consumed. -/
structure Speculates (call : Call) (scanner : Scanner) (script : Script) (found : String) :
    Prop where
  tries : ∀ command ∈ script.performed call scanner, command.2.Tries
  consumes : scanner.ConsumesBehindCursor call (script.performed call scanner)
  found_eq : found = String.join (scanner.tokens call (script.performed call scanner))
  finishes : (script.run call scanner).value.1 = .ok (some found)

/-- The scanner with its cursor where another scanner has it, after a match. -/
def resumedAt (scanner final : Scanner) (found : String) : Scanner :=
  { scanner with
    cursor :=
      { pos := final.cursor.pos
        lastPos := scanner.cursor.pos
        lastMatch := some found
        offset := final.cursor.offset }
    undoCursor := scanner.cursor }

variable {call : Call} {scanner : Scanner}

theorem Speculates.isPrefix {script : Script} {found : String}
    (speculates : scanner.Speculates call script found) (placed : scanner.WellPlaced) :
    found.toList <+: scanner.unscannedText.toList := by
  rw [speculates.found_eq]
  exact tokens_isPrefix speculates.tries placed speculates.consumes

/-- One movement over all that was consumed ends where the single movements
ended. -/
theorem afterMatch_eq_resumedAt {script : Script} {found : String}
    (speculates : scanner.Speculates call script found) (placed : scanner.WellPlaced) :
    scanner.afterMatch found =
      scanner.resumedAt (script.run call scanner).value.2 found := by
  rcases performAll_elsewhere call speculates.tries placed with ⟨elsewhere, placedLast⟩
  have landing := (afterMatch_cursor placed (speculates.isPrefix placed)).1
  have reached := pos_performAll speculates.tries placed speculates.consumes
  rw [← speculates.found_eq] at reached
  have offset_eq := placedLast.cursor.offset_eq
  rw [elsewhere.text_eq, reached, ← landing] at offset_eq
  rw [Script.run_eq_performAll, resumedAt, reached, ← landing, offset_eq]
  rfl

theorem TryingRoutine.speculates {routine : Routine} (trying : scanner.TryingRoutine routine)
    {depth : Nat} (honest : scanner.Honest (callWithin depth)) (placed : scanner.WellPlaced)
    {args : List Value} {found : String}
    (returned : ((routine args).run (callWithin depth) scanner).value.1 = .ok (some found)) :
    scanner.Speculates (callWithin depth) (routine args) found := by
  rcases trying (Elsewhere.refl scanner) placed returned with ⟨tries, found_eq⟩
  exact ⟨tries, honest.consumesBehindCursor placed tries, found_eq, returned⟩

/-! ## Scans of a type -/

/-- The outcome of a type whose routine speculates. -/
theorem Speculates.value_resolveType {depth : Nat} {name : String} {routine : Routine}
    {args : List Value} {found : String}
    (speculates : scanner.Speculates (callWithin depth) (routine args) found)
    (registered : scanner.types.find? name = some routine) :
    (scanner.resolveType (callWithin (depth + 1)) { name, args }).value =
      .ok (.success (.type name) (.type { name, args }) found) := by
  have returned := speculates.finishes
  rw [Scanner.value_resolveType, registered]
  change ((routine args).run (callWithin depth) scanner).value.1.map _ = _
  rw [returned]
  rfl

theorem scanOutcome_of_matched {option : ScanOption} {outcome : Outcome}
    (tried : (Search.ofOption option).outcome call scanner = .ok outcome)
    (matched : outcome.matched = true) (rest : List ScanOption) :
    (scanner.scanOutcome call (option :: rest)).value =
        .ok (outcome, (scanner.commit outcome).value) ∧
      (scanner.scan call (option :: rest)).value =
        .ok ((scanner.commit outcome).value.present outcome,
          (scanner.commit outcome).value) := by
  rw [value_scanOutcome, value_scan,
    Search.value_checkOutcome_of_matched tried matched rest]
  exact ⟨rfl, rfl⟩

/-- Scanning a type whose routine only tries, finds what it consumes behind the
cursor, and returns all of it, leaves the scanner where the routine left its
copy, by one movement.  Such a routine returns a beginning of the text behind
the cursor; so over honest modes this holds of types that try types, to any
depth. -/
theorem commit_eq_speculation {text : String} {scanner : Scanner}
    (reachable : Reachable text scanner) :
    (∀ depth name routine args found, scanner.types.find? name = some routine →
      scanner.Speculates (callWithin depth) (routine args) found →
      let call := callWithin (depth + 1)
      let reference : TypeRef := { name, args }
      let final := ((routine args).run (callWithin depth) scanner).value.2
      let committed := scanner.resumedAt final found
      let outcome := Outcome.success (.type name) (.type reference) found
      (scanner.scanType call reference).value = .ok (some found, committed) ∧
      (∀ rest, (scanner.scanOutcome call (.type reference :: rest)).value =
          .ok (outcome, committed) ∧
        (scanner.scan call (.type reference :: rest)).value =
          .ok (committed.present outcome, committed)) ∧
      (∀ value rest,
        let substituted :=
          Outcome.substituted .enumeration (.type reference) found value
        (scanner.scanEnum call (.type reference) value).value = .ok (some value, committed) ∧
        (scanner.scanOutcome call (.enumeration (.type reference) value :: rest)).value =
          .ok (substituted, committed) ∧
        (scanner.scan call (.enumeration (.type reference) value :: rest)).value =
          .ok (committed.present substituted, committed)) ∧
      committed.unscannedText = final.unscannedText ∧
      found.toList <+: scanner.unscannedText.toList) ∧
    ((∀ ⦃name mode⦄, scanner.comparisonModes.find? name = some mode → mode.Honest) →
      (∀ ⦃name routine⦄, scanner.types.find? name = some routine →
        scanner.TryingRoutine routine) →
      ∀ depth, scanner.Honest (callWithin depth) ∧
        ∀ ⦃name routine args found⦄, scanner.types.find? name = some routine →
          ((routine args).run (callWithin depth) scanner).value.1 = .ok (some found) →
          scanner.Speculates (callWithin depth) (routine args) found) := by
  have placed := reachable.wellPlaced
  constructor
  · intro depth name routine args found registered speculates call reference final committed
      outcome
    have resolved : (scanner.resolveType call reference).value = .ok outcome :=
      speculates.value_resolveType registered
    have landed : scanner.afterMatch found = committed :=
      afterMatch_eq_resumedAt speculates placed
    have committed_eq : (scanner.commit outcome).value = committed :=
      (value_commit placed rfl).trans landed
    refine ⟨?_, ?_, ?_, ?_, speculates.isPrefix placed⟩
    · rw [value_scanType, resolved, ← committed_eq]
      rfl
    · intro rest
      rw [← committed_eq]
      exact scanOutcome_of_matched (Search.value_resolve call scanner _ ▸ resolved) rfl rest
    · intro value rest substituted
      have tried : (Search.ofOption (.enumeration (.type reference) value)).outcome call
          scanner = .ok substituted := resolveEnum_eq_ok_iff.mpr ⟨outcome, resolved, rfl⟩
      have substituted_eq : (scanner.commit substituted).value = committed :=
        (value_commit placed rfl).trans landed
      rw [← substituted_eq]
      refine ⟨?_, scanOutcome_of_matched tried rfl rest⟩
      change (scanner.resolveEnum call (.type reference) value).value = _ at tried
      rw [value_scanEnum, tried]
      rfl
    · have text_eq : final.text = scanner.text := by
        change ((routine args).run (callWithin depth) scanner).value.2.text = scanner.text
        rw [Script.run_eq_performAll]
        exact (performAll_elsewhere _ speculates.tries placed).1.text_eq
      rw [unscannedText, unscannedText, text_eq]
      rfl
  · intro modes types depth
    have honest := honest_of_tryingRoutines modes types depth
    constructor
    · exact honest
    · intro name routine args found registered returned
      exact (types registered).speculates honest placed returned

/-- A type that tries itself. -/
theorem commit_eq_speculation_of_list :
    let list : Routine := fun _ =>
      .inOrder "" [[.literal "a", .literal "é"], [.type ⟨"list", []⟩, .literal ";"]]
    let scanner := (new "aéa;b").performAll (callWithin 8)
      [⟨_, .addType "list" list⟩, ⟨_, .moveBy 1⟩]
    let final := ((list []).run (callWithin 7) scanner).value.2
    (scanner.scanType (callWithin 8) ⟨"list", []⟩).value =
        .ok (some "éa;", scanner.resumedAt final "éa;") ∧
      final.unscannedText = "b" ∧
      (scanner.resumedAt final "éa;").cursor =
        { pos := 4, lastPos := 1, lastMatch := some "éa;", offset := 5 } := by
  intro list scanner final
  have reachable : Reachable "aéa;b" scanner := Reachable.new.performAll 8 _
  rcases commit_eq_speculation reachable with ⟨law, nesting⟩
  have registered : scanner.types.find? "list" = some list := rfl
  have types : ∀ ⦃name routine⦄, scanner.types.find? name = some routine →
      scanner.TryingRoutine routine := by
    intro name routine known
    change (Table.empty.insert "list" list).find? name = some routine at known
    rcases Table.find?_insert_cases known with rfl | absent
    · exact scanner.tryingRoutine_inOrder _
    · simp at absent
  have returned : ((list []).run (callWithin 7) scanner).value.1 = .ok (some "éa;") := by
    decide +kernel
  have speculates : scanner.Speculates (callWithin 7) (list []) "éa;" :=
    (nesting (fun _ _ => ComparisonMode.honest_of_builtin) types 7).2 registered returned
  rcases law 7 "list" list [] "éa;" registered speculates with ⟨scanned, _⟩
  refine ⟨scanned, ?_, ?_⟩
  · decide +kernel
  · decide +kernel

end Scanner

end TextScanner
