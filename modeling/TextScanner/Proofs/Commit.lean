import TextScanner.Proofs.Invariant

/-!
# Only the committed match is visible

A type runs its routine on a copy of the scanner, and only the text that the
routine returns comes back.  So, whatever a routine does to its copy and
whatever it or a comparator returns, a scan that matches moves the cursor over
the matched text, as far as the text goes, and remembers where it was
(`Scanner.afterMatch`).

A routine is any function of its arguments and the scanner here, because a
`Call` is.
-/

namespace TextScanner.Scanner

variable {call : Call} {scanner changed : Scanner}

/-- A scanner commits a match by moving behind it. -/
theorem value_commit (placed : scanner.WellPlaced) {outcome : Outcome} {text : String}
    (consumed : outcome.consumed = some text) :
    (scanner.commit outcome).value = scanner.afterMatch text := by
  rw [commit, consumed]
  exact value_advanceOver placed text

theorem value_commit_of_none {outcome : Outcome} (consumed : outcome.consumed = none) :
    (scanner.commit outcome).value = scanner := by
  rw [commit, consumed]
  rfl

theorem consumed_of_matched {outcome : Outcome} {text : String}
    (matched : outcome.matched = true) (found : outcome.text = some text) :
    outcome.consumed = some text := by
  rw [Outcome.consumed, if_pos matched, found]

/-- A scan that matches a text changes the cursor and the place that undo
returns to, and nothing else. -/
theorem scan_shows_only_match {text : String} {scanner : Scanner}
    (reachable : Reachable text scanner) (call : Call) :
    (∀ options outcome changed matched,
      (scanner.scanOutcome call options).value = .ok (outcome, changed) →
      outcome.matched = true → outcome.text = some matched →
      changed = scanner.afterMatch matched) ∧
    (∀ options output changed, (scanner.scan call options).value = .ok (output, changed) →
      ∃ outcome, (scanner.checkOutcome call options).value = .ok outcome ∧
        output = changed.present outcome ∧
        ∀ matched, outcome.matched = true → outcome.text = some matched →
          changed = scanner.afterMatch matched) ∧
    (∀ candidate matched, (scanner.scanLiteral candidate).value.1 = some matched →
      (scanner.scanLiteral candidate).value.2 = scanner.afterMatch matched) ∧
    (∀ candidate matched, (scanner.scanPattern candidate).value.1 = some matched →
      (scanner.scanPattern candidate).value.2 = scanner.afterMatch matched) ∧
    (∀ reference matched changed,
      (scanner.scanType call reference).value = .ok (some matched, changed) →
      changed = scanner.afterMatch matched) ∧
    (∀ key value result changed,
      (scanner.scanEnum call key value).value = .ok (result, changed) →
      ∃ outcome, (scanner.resolveEnum call key value).value = .ok outcome ∧
        result = outcome.result ∧
        ∀ matched, outcome.matched = true → outcome.text = some matched →
          changed = scanner.afterMatch matched) := by
  have placed := reachable.wellPlaced
  refine ⟨?_, ?_, ?_, ?_, ?_, ?_⟩
  · intro options outcome changed matched scanned isMatch found
    rw [value_scanOutcome] at scanned
    rcases map_eq_ok_iff.mp scanned with ⟨_, _, same⟩
    rcases Prod.mk.inj same with ⟨rfl, rfl⟩
    exact value_commit placed (consumed_of_matched isMatch found)
  · intro options output changed scanned
    rw [value_scan] at scanned
    rcases map_eq_ok_iff.mp scanned with ⟨outcome, checked, same⟩
    rcases Prod.mk.inj same with ⟨rfl, rfl⟩
    refine ⟨outcome, checked, rfl, ?_⟩
    intro matched isMatch found
    exact value_commit placed (consumed_of_matched isMatch found)
  · intro candidate matched found
    rw [value_scanLiteral] at found ⊢
    exact value_commit placed
      ((scanner.resolveLiteral_wellFormed candidate).consumed_eq.trans found)
  · intro candidate matched found
    rw [value_scanPattern] at found ⊢
    exact value_commit placed
      ((scanner.resolvePattern_wellFormed candidate).consumed_eq.trans found)
  · intro reference matched changed scanned
    rw [value_scanType] at scanned
    rcases map_eq_ok_iff.mp scanned with ⟨outcome, resolved, same⟩
    rcases Prod.mk.inj same with ⟨found, rfl⟩
    have wellFormed := Search.wellFormed_of_outcome (.type reference) resolved
    exact value_commit placed (wellFormed.consumed_eq.trans found)
  · intro key value result changed scanned
    rw [value_scanEnum] at scanned
    rcases map_eq_ok_iff.mp scanned with ⟨outcome, resolved, same⟩
    rcases Prod.mk.inj same with ⟨rfl, rfl⟩
    refine ⟨outcome, resolved, rfl, ?_⟩
    intro matched isMatch found
    exact value_commit placed (consumed_of_matched isMatch found)

/-- A type that forgets its pointers and itself, and finds what is not there. -/
theorem scan_shows_only_match_of_restless_type :
    let restless : Routine := fun _ =>
      .perform (.reset true) fun _ =>
      .perform (.putData "key" .null) fun _ =>
      .perform (.setComparisonMode "insensitive") fun _ =>
      .finish (.ok (some "not in the text"))
    let scanner := (new "añb€c").performAll (callWithin 2)
      [⟨_, .moveBy 2⟩, ⟨_, .savePointer "here"⟩, ⟨_, .addType "restless" restless⟩]
    ∃ changed,
      (scanner.scanType (callWithin 2) ⟨"restless", []⟩).value =
        .ok (some "not in the text", changed) ∧
      changed = { scanner with cursor := changed.cursor, undoCursor := scanner.cursor } ∧
      changed.cursor =
        { pos := 5, lastPos := 2, lastMatch := some "not in the text", offset := 8 } := by
  intro restless scanner
  have reachable : Reachable "añb€c" scanner := Reachable.new.performAll 2 _
  rcases scan_shows_only_match reachable (callWithin 2) with ⟨_, _, _, _, ofType, _⟩
  refine ⟨_, rfl, ?_⟩
  rw [ofType ⟨"restless", []⟩ "not in the text" _ rfl]
  constructor
  · rfl
  · decide +kernel

end TextScanner.Scanner
