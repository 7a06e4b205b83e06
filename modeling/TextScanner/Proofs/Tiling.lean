import TextScanner.Proofs.Trying

/-!
# Tokens tile the text

Where modes and types are honest, the texts that a run of checks and scans
consumes are, put together, the text that the cursor passes, and each stands in
the text where its match says.
-/

namespace TextScanner

namespace Scanner

variable {scanner : Scanner}

/-- The part of the text between two positions. -/
def textBetween (scanner : Scanner) (first last : Nat) : String :=
  String.ofList ((scanner.text.toList.take last).drop first)

/-- A beginning of the text that is longer by some characters ends with them. -/
theorem textBetween_eq {first last : Nat} {passed : List Char}
    (within : first ≤ scanner.text.toList.length)
    (longer : scanner.text.toList.take last = scanner.text.toList.take first ++ passed) :
    scanner.textBetween first last = String.ofList passed := by
  have length_eq : (scanner.text.toList.take first).length = first := by
    rw [List.length_take, Nat.min_eq_left within]
  rw [textBetween, longer]
  congr 1
  calc (scanner.text.toList.take first ++ passed).drop first
      = (scanner.text.toList.take first ++ passed).drop
          (scanner.text.toList.take first).length := by rw [length_eq]
    _ = passed := List.drop_left

/-- Where modes and types are honest, the tokens of a run of checks, scans and
switches of the comparison mode are the text that the cursor passes, each
standing where its match says. -/
theorem tokens_tile_text {text : String} {scanner : Scanner}
    (reachable : Reachable text scanner) (call : Call) (honest : scanner.Honest call)
    (commands : List AnyCommand) (tries : ∀ command ∈ commands, command.2.Tries) :
    scanner.cursor.pos ≤ (scanner.performAll call commands).cursor.pos ∧
    String.join (scanner.tokens call commands) =
      scanner.textBetween scanner.cursor.pos (scanner.performAll call commands).cursor.pos ∧
    (∀ before command after token, commands = before ++ command :: after →
      let met := scanner.performAll call before
      let next := (command.2.run call met).value.2
      command.2.consumed call met = some token →
        next.cursor.lastMatch = some token ∧
        next.cursor.lastPos = met.cursor.pos ∧
        next.cursor.pos = next.cursor.lastPos + token.length ∧
        scanner.textBetween next.cursor.lastPos next.cursor.pos = token) ∧
    (∀ search, ComparisonMode.Anchored search →
      (ComparisonMode.normal.searching search).Honest ∧
      (ComparisonMode.insensitive.searching search).Honest) ∧
    ComparisonMode.normal.Honest ∧ ComparisonMode.insensitive.Honest := by
  have placed := reachable.wellPlaced
  have tiles := take_performAll tries placed (honest.consumesBehindCursor placed tries)
  refine ⟨?_, ?_, ?_, ?_, ComparisonMode.normal_honest, ComparisonMode.insensitive_honest⟩
  · rw [pos_performAll tries placed (honest.consumesBehindCursor placed tries)]
    exact Nat.le_add_right _ _
  · rw [textBetween_eq placed.cursor.pos_le tiles, String.ofList_toList]
  · intro before command after token same met next matched
    have triesBefore : ∀ earlier ∈ before, earlier.2.Tries := by
      intro earlier member
      exact tries earlier (same ▸ List.mem_append_left _ member)
    rcases performAll_elsewhere call triesBefore placed with ⟨elsewhere, placedMet⟩
    have begins := (honest.elsewhere elsewhere).consumed_isPrefix placedMet matched
    rcases afterMatch_cursor placedMet begins with ⟨landing, passed⟩
    have text_eq : met.text = scanner.text := elsewhere.text_eq
    have next_eq : next = met.afterMatch token := Command.run_of_consumed placedMet matched
    rw [text_eq] at passed
    rw [next_eq]
    refine ⟨rfl, rfl, landing, ?_⟩
    rw [landing]
    have within := placedMet.cursor.pos_le
    rw [text_eq] at within
    exact (textBetween_eq within passed).trans String.ofList_toList
  · intro search anchored
    exact ⟨ComparisonMode.normal_searching_honest anchored,
      ComparisonMode.insensitive_searching_honest anchored⟩

/-- A literal that has one more byte than what it matches without case. -/
theorem tokens_tile_text_of_greeting :
    let scanner := (new "grüße, welt").performAll (callWithin 8)
      [⟨_, .addType "comma" fun _ => .inOrder "" [[.literal ","], [.literal " "]]⟩]
    let commands : List AnyCommand :=
      [⟨_, .scanLiteral "GRÜẞE"⟩, ⟨_, .setComparisonMode "insensitive"⟩,
        ⟨_, .scanLiteral "GRÜẞE"⟩, ⟨_, .checkLiteral ","⟩,
        ⟨_, .scan [.literal "welt", .type ⟨"comma", []⟩]⟩,
        ⟨_, .scanEnum (.literal "WELT") (.boolean true)⟩]
    scanner.tokens (callWithin 8) commands = ["grüße", ", ", "welt"] ∧
      String.join (scanner.tokens (callWithin 8) commands) =
        scanner.textBetween 0 (scanner.performAll (callWithin 8) commands).cursor.pos := by
  intro scanner commands
  have reachable : Reachable "grüße, welt" scanner := Reachable.new.performAll 8 _
  have honest : scanner.Honest (callWithin 8) := by
    refine honest_of_tryingRoutines (fun _ _ => ComparisonMode.honest_of_builtin) ?_ 8
    intro name routine registered
    change (Table.empty.insert _ _).find? name = some routine at registered
    rcases Table.find?_insert_cases registered with rfl | absent
    · exact scanner.tryingRoutine_inOrder _
    · simp at absent
  have tries : ∀ command ∈ commands, command.2.Tries := by
    simp only [commands, List.forall_mem_cons]
    exact ⟨.scan rfl, .setComparisonMode _, .scan rfl, .check rfl, .scan rfl, .scan rfl, by simp⟩
  rcases tokens_tile_text reachable (callWithin 8) honest commands tries with ⟨_, tiles, _⟩
  constructor
  · decide +kernel
  · exact tiles

end Scanner

end TextScanner
