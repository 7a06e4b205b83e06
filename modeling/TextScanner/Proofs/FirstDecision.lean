import TextScanner.Proofs.Change

/-!
# The first option that decides

An option decides if it matches or fails with an error.  Trying a list goes on to
the next option unless the one before decided (`Attempt.orTry`), so a list that is
put together from two is tried as the first one, and then as the second one unless
the first one decided (`Scanner.checkOutcome_append`).  What is left over is not
even tried: the equations hold of the records that trying makes as well.

Every option is tried on the same scanner, whatever the routines of options before
it did to their copies, so the result is that of the first option that decides on
its own (`Scanner.value_checkOutcome_eq_find?`).
-/

namespace TextScanner

/-- Whether a result ends the search: a match or an error. -/
def decisive : Except ScannerError Outcome → Bool
  | .ok outcome => outcome.matched
  | .error _ => true

/-- Go on to a second attempt unless the first one decides. -/
def Attempt.orTry (first second : Attempt Outcome) : Attempt Outcome :=
  first.andThen fun outcome => if outcome.matched then .ok outcome else second

namespace Attempt

variable {first : Attempt Outcome}

/-- What decides is left as it is, with its records. -/
theorem orTry_of_decisive (decides : decisive first.value = true) (second : Attempt Outcome) :
    first.orTry second = first := by
  rcases first with ⟨error | outcome, records⟩
  · rfl
  · have matched : outcome.matched = true := decides
    simp [orTry, andThen, matched, ok]

/-- What does not decide leaves its records before those of what comes after it. -/
theorem orTry_of_not_decisive (undecided : decisive first.value = false)
    (second : Attempt Outcome) :
    first.orTry second = ⟨second.value, first.records ++ second.records⟩ := by
  rcases first with ⟨error | outcome, records⟩
  · simp [decisive] at undecided
  · have unmatched : outcome.matched = false := undecided
    simp [orTry, andThen, unmatched]

theorem value_orTry (first second : Attempt Outcome) :
    (first.orTry second).value =
      if decisive first.value then first.value else second.value := by
  cases decides : decisive first.value with
  | true => simp [orTry_of_decisive decides]
  | false => simp [orTry_of_not_decisive decides]

/-- Going on after two parts is going on within the second one. -/
theorem andThen_assoc {α β γ : Type} (attempt : Attempt α) (next : α → Attempt β)
    (last : β → Attempt γ) :
    (attempt.andThen next).andThen last = attempt.andThen fun value =>
      (next value).andThen last := by
  rcases attempt with ⟨error | value, records⟩
  · rfl
  · simp only [andThen]
    cases (next value).value with
    | error error => rfl
    | ok middle => simp only [List.append_assoc]

theorem orTry_assoc (first second third : Attempt Outcome) :
    (first.orTry second).orTry third = first.orTry (second.orTry third) := by
  rw [orTry, orTry, andThen_assoc]
  congr 1
  funext outcome
  cases matched : outcome.matched with
  | true =>
      -- a match is itself an attempt that decides
      exact @orTry_of_decisive (ok outcome) matched third
  | false => rfl

end Attempt

namespace Scanner

variable {call : Call} {scanner : Scanner} {option : ScanOption}

/-- A list is tried as its first option, and as the rest unless that decided. -/
theorem checkOutcome_cons (call : Call) (scanner : Scanner) (option : ScanOption)
    (rest : List ScanOption) :
    scanner.checkOutcome call (option :: rest) =
      (scanner.resolve call option).orTry (scanner.checkOutcome call rest) :=
  rfl

/-- A list of options is tried as its first part, and as the second one unless the
first part decided. -/
theorem checkOutcome_append (call : Call) (scanner : Scanner) (first second : List ScanOption) :
    scanner.checkOutcome call (first ++ second) =
      (scanner.checkOutcome call first).orTry (scanner.checkOutcome call second) := by
  induction first with
  | nil => rfl
  | cons option rest ih =>
      rw [List.cons_append, checkOutcome_cons, ih, checkOutcome_cons, Attempt.orTry_assoc]

/-- The result of a list is that of the first option that decides on its own. -/
theorem value_checkOutcome_eq_find? (call : Call) (scanner : Scanner)
    (options : List ScanOption) :
    (scanner.checkOutcome call options).value =
      ((options.map fun option => (scanner.resolve call option).value).find? decisive).getD
        (.ok .failure) := by
  induction options with
  | nil => rfl
  | cons option rest ih =>
      rw [checkOutcome_cons, Attempt.value_orTry, ih, List.map_cons, List.find?_cons]
      cases decisive (scanner.resolve call option).value <;> rfl

/-- A list with an option that decides on its own decides at the latest there. -/
theorem decisive_checkOutcome_of_mem {options : List ScanOption} (member : option ∈ options)
    (decides : decisive (scanner.resolve call option).value = true) :
    decisive (scanner.checkOutcome call options).value = true := by
  have among : (scanner.resolve call option).value ∈
      options.map fun option => (scanner.resolve call option).value :=
    List.mem_map_of_mem member
  rw [value_checkOutcome_eq_find?]
  cases found : (options.map fun option => (scanner.resolve call option).value).find? decisive with
  | none => exact absurd decides (List.find?_eq_none.mp found _ among)
  | some result => exact List.find?_some found

/-- Behind options that do not decide, the first one that does is the result. -/
theorem value_checkOutcome_of_first {before : List ScanOption}
    (undecided : ∀ earlier ∈ before, decisive (scanner.resolve call earlier).value = false)
    (decides : decisive (scanner.resolve call option).value = true) (rest : List ScanOption) :
    (scanner.checkOutcome call (before ++ option :: rest)).value =
      (scanner.resolve call option).value := by
  have passed : (before.map fun earlier => (scanner.resolve call earlier).value).find? decisive =
      none := by
    simpa using undecided
  rw [value_checkOutcome_eq_find?, List.map_append, List.find?_append, passed, List.map_cons,
    List.find?_cons, decides]
  rfl

/-- Options behind one that decides on its own are not tried. -/
theorem checkOutcome_of_decided (decides : decisive (scanner.resolve call option).value = true)
    (before rest : List ScanOption) :
    scanner.checkOutcome call (before ++ option :: rest) =
      scanner.checkOutcome call (before ++ [option]) := by
  have decided : decisive (scanner.checkOutcome call (before ++ [option])).value = true :=
    decisive_checkOutcome_of_mem (List.mem_append_right _ (.head _)) decides
  rw [List.append_cons, checkOutcome_append, Attempt.orTry_of_decisive decided]

/-! ## Scans of lists -/

/-- What a scan of a list answers and leaves follows from what trying it gives. -/
theorem run_scanOutcome_congr {options others : List ScanOption}
    (same : scanner.checkOutcome call options = scanner.checkOutcome call others) :
    (Command.scanOutcome options).run call scanner =
      (Command.scanOutcome others).run call scanner := by
  simp only [Command.run, scanOutcome, same]

theorem value_run_scanOutcome (call : Call) (scanner : Scanner) (options : List ScanOption) :
    ((Command.scanOutcome options).run call scanner).value =
      ((scanner.checkOutcome call options).value,
        scanner.past (scanner.checkOutcome call options).value) :=
  Prod.ext (Command.scanOutcome_answer call scanner options)
    (@Command.run_of_scan? _ (.scanOutcome options) (.firstOf options) rfl call scanner)

/-! ## Types that fail -/

/-- A type fails with an error: it is not registered, or its routine fails on a copy. -/
def TypeFails (call : Call) (scanner : Scanner) (reference : TypeRef) (error : ScannerError) :
    Prop :=
  match scanner.types.find? reference.name with
  | none => error = .unknownType reference.name
  | some routine => (call routine reference.args scanner).value.1 = .error error

/-- An option whose key is a type that fails, fails with the same error. -/
theorem value_resolve_of_typeFails {reference : TypeRef} {error : ScannerError}
    (ofType : option.key = .type reference) (fails : scanner.TypeFails call reference error) :
    (scanner.resolve call option).value = .error error := by
  have failed : (scanner.resolveType call reference).value = .error error := by
    rw [value_resolveType]
    unfold TypeFails at fails
    cases known : scanner.types.find? reference.name with
    | none =>
        rw [known] at fails
        rw [fails]
    | some routine =>
        rw [known] at fails
        exact congrArg (Except.map (typeOutcome reference)) fails
  rw [Search.value_resolve]
  cases option with
  | literal | pattern => nomatch ofType
  | type =>
      obtain rfl := EnumKey.type.inj ofType
      exact failed
  | enumeration key value =>
      obtain rfl : key = .type reference := ofType
      rw [Search.ofOption, Search.outcome, value_resolveEnum, resolveKey, failed]
      rfl

/-- Trying two lists one after the other gives what the first one gives, if that is a
match or an error, and what the second one gives otherwise; so do scans, which leave the
scanner as that list alone does.  The empty list fails and leaves the scanner alone.  So
the result is that of the first option that is a match or an error on its own, on the
scanner as it was.  Whatever comes behind it is not tried, and may be replaced by
anything.  If that option asks for a type that is not registered or fails, its error is
the result, and a scan leaves the scanner alone. -/
theorem first_decision_wins (call : Call) (scanner : Scanner) :
    (∀ first second, decisive (scanner.checkOutcome call first).value = true →
      scanner.checkOutcome call (first ++ second) = scanner.checkOutcome call first ∧
      (Command.scanOutcome (first ++ second)).run call scanner =
        (Command.scanOutcome first).run call scanner) ∧
    (∀ first second, decisive (scanner.checkOutcome call first).value = false →
      (scanner.checkOutcome call (first ++ second)).value =
        (scanner.checkOutcome call second).value ∧
      ((Command.scanOutcome (first ++ second)).run call scanner).value =
        ((Command.scanOutcome second).run call scanner).value) ∧
    ((scanner.checkOutcome call []).value = .ok .failure ∧
      ((Command.scanOutcome []).run call scanner).value = (.ok .failure, scanner)) ∧
    (∀ options, (scanner.checkOutcome call options).value =
      ((options.map fun option => (scanner.resolve call option).value).find? decisive).getD
        (.ok .failure)) ∧
    (∀ before option rest others, decisive (scanner.resolve call option).value = true →
      scanner.checkOutcome call (before ++ option :: rest) =
        scanner.checkOutcome call (before ++ option :: others) ∧
      (Command.scanOutcome (before ++ option :: rest)).run call scanner =
        (Command.scanOutcome (before ++ option :: others)).run call scanner) ∧
    (∀ before option rest reference error,
      (∀ earlier ∈ before, decisive (scanner.resolve call earlier).value = false) →
      option.key = .type reference → scanner.TypeFails call reference error →
      (scanner.checkOutcome call (before ++ option :: rest)).value = .error error ∧
      ((Command.scanOutcome (before ++ option :: rest)).run call scanner).value =
        (.error error, scanner)) := by
  refine ⟨?_, ?_, ⟨rfl, rfl⟩, value_checkOutcome_eq_find? call scanner, ?_, ?_⟩
  · intro first second decides
    have same : scanner.checkOutcome call (first ++ second) = scanner.checkOutcome call first := by
      rw [checkOutcome_append, Attempt.orTry_of_decisive decides]
    exact ⟨same, run_scanOutcome_congr same⟩
  · intro first second undecided
    have same : (scanner.checkOutcome call (first ++ second)).value =
        (scanner.checkOutcome call second).value := by
      rw [checkOutcome_append, Attempt.orTry_of_not_decisive undecided]
    refine ⟨same, ?_⟩
    rw [value_run_scanOutcome, same, value_run_scanOutcome]
  · intro before option rest others decides
    have same : scanner.checkOutcome call (before ++ option :: rest) =
        scanner.checkOutcome call (before ++ option :: others) := by
      rw [checkOutcome_of_decided decides, checkOutcome_of_decided decides before others]
    exact ⟨same, run_scanOutcome_congr same⟩
  · intro before option rest reference error undecided ofType fails
    have failed := value_resolve_of_typeFails ofType fails
    have decides : decisive (scanner.resolve call option).value = true := by
      rw [failed]
      rfl
    have result : (scanner.checkOutcome call (before ++ option :: rest)).value = .error error :=
      (value_checkOutcome_of_first undecided decides rest).trans failed
    refine ⟨result, ?_⟩
    rw [value_run_scanOutcome, result]
    rfl

/-- A type that moves its copy and finds nothing, a type that moves its copy and fails, and
one that is not registered, around a literal that is there. -/
theorem first_decision_wins_of_broken_type :
    let shy : Routine := fun _ => .perform (.moveBy 1) fun _ => .finish (.ok none)
    let broken : Routine := fun _ =>
      .perform (.moveBy 2) fun _ =>
      .perform (.loadPointer "there") fun answer => .finish (answer.map fun _ => none)
    let scanner := (new "añb").performAll (callWithin 2)
      [⟨_, .addType "shy" shy⟩, ⟨_, .addType "broken" broken⟩]
    let missed : List ScanOption := [.type ⟨"shy", []⟩, .literal "x"]
    let scanning (options : List ScanOption) :=
      ((Command.scanOutcome options).run (callWithin 2) scanner).value
    (scanning [.literal "añ"]).2.cursor.pos = 2 ∧
      scanning (missed ++ [.literal "añ"]) = scanning [.literal "añ"] ∧
      scanner.checkOutcome (callWithin 2) (missed ++ .literal "añ" :: [.type ⟨"absent", []⟩]) =
        scanner.checkOutcome (callWithin 2) (missed ++ .literal "añ" :: []) ∧
      scanner.checkOutcome (callWithin 2) ([.type ⟨"broken", []⟩] ++ [.literal "añ"]) =
        scanner.checkOutcome (callWithin 2) [.type ⟨"broken", []⟩] ∧
      scanning (missed ++ .enumeration (.type ⟨"broken", []⟩) .null :: [.literal "añ"]) =
        (.error (.unknownPointer "there"), scanner) := by
  intro shy broken scanner missed scanning
  rcases first_decision_wins (callWithin 2) scanner with
    ⟨ofDecided, ofUndecided, _, _, ofLater, ofFailing⟩
  have missedAll : ∀ earlier ∈ missed,
      decisive (scanner.resolve (callWithin 2) earlier).value = false := by
    intro earlier member
    simp only [missed, List.mem_cons, List.not_mem_nil, or_false] at member
    rcases member with rfl | rfl <;> decide +kernel
  refine ⟨?_, ?_, ?_, ?_, ?_⟩
  · decide +kernel
  · exact (ofUndecided missed [.literal "añ"] (by decide +kernel)).2
  · exact (ofLater missed (.literal "añ") _ [] (by decide +kernel)).1
  · exact (ofDecided [.type ⟨"broken", []⟩] _ (by decide +kernel)).1
  · exact (ofFailing missed (.enumeration (.type ⟨"broken", []⟩) .null) _ ⟨"broken", []⟩ _
      missedAll rfl rfl).2

end Scanner

end TextScanner
