import TextScanner.Scanner.Command

/-!
# What checks and scans look for

Checks and scans come in one form for lists of options and in one for each kind
of option, and present what they found in different ways.  Underneath, each of
them makes a search (`Search`), whose outcome depends on the scanner alone.

Checks leave the scanner alone (`Command.run_of_check?`).  Scans advance it over
what the search consumed and leave it alone otherwise (`Command.run_of_scan?`).

What comes of a search is a failure that carries nothing or a match that carries
everything (`Search.wellFormed_of_outcome`).
-/

namespace TextScanner

/-- What a check or a scan looks for at the cursor. -/
inductive Search where
  | firstOf (options : List ScanOption)
  | literal (candidate : String)
  | pattern (candidate : Pattern)
  | enumeration (key : EnumKey) (value : Value)
  | type (reference : TypeRef)

/-- What comes of a search. -/
def Search.outcome (call : Call) (scanner : Scanner) : Search → Except ScannerError Outcome
  | .firstOf options => (scanner.checkOutcome call options).value
  | .literal candidate => .ok (scanner.resolveLiteral candidate)
  | .pattern candidate => .ok (scanner.resolvePattern candidate)
  | .enumeration key value => (scanner.resolveEnum call key value).value
  | .type reference => (scanner.resolveType call reference).value

namespace Command

/-- The search of a command that advances over what it finds. -/
def scan? : {kind : Kind} → Command kind → Option Search
  | _, .scanOutcome options => some (.firstOf options)
  | _, .scan options => some (.firstOf options)
  | _, .scanLiteral candidate => some (.literal candidate)
  | _, .scanPattern candidate => some (.pattern candidate)
  | _, .scanEnum key value => some (.enumeration key value)
  | _, .scanType name args => some (.type { name, args })
  | _, _ => none

/-- The search of a command that only looks. -/
def check? : {kind : Kind} → Command kind → Option Search
  | _, .checkOutcome options => some (.firstOf options)
  | _, .check options => some (.firstOf options)
  | _, .checkLiteral candidate => some (.literal candidate)
  | _, .checkPattern candidate => some (.pattern candidate)
  | _, .checkEnum key value => some (.enumeration key value)
  | _, .checkType name args => some (.type { name, args })
  | _, _ => none

end Command

/-- A result that was changed is a success if it was one before. -/
theorem map_eq_ok_iff {α β : Type} {change : α → β} {result : Except ScannerError α}
    {value : β} :
    result.map change = .ok value ↔ ∃ before, result = .ok before ∧ change before = value := by
  cases result <;> simp [Except.map]

/-- A result that was changed is an error if it was that error before. -/
theorem map_eq_error_iff {α β : Type} {change : α → β} {result : Except ScannerError α}
    {error : ScannerError} : result.map change = .error error ↔ result = .error error := by
  cases result <;> simp [Except.map]

namespace Scanner

/-- The scanner behind what a search consumed. -/
def past (scanner : Scanner) : Except ScannerError Outcome → Scanner
  | .ok outcome => (scanner.commit outcome).value
  | .error _ => scanner

@[simp]
theorem past_ok (scanner : Scanner) (outcome : Outcome) :
    scanner.past (.ok outcome) = (scanner.commit outcome).value :=
  rfl

/-! ## What scans return -/

theorem value_committing (scanner : Scanner) (attempt : Attempt Outcome) :
    (scanner.committing attempt).value =
      attempt.value.map fun outcome => (outcome, (scanner.commit outcome).value) := by
  rw [committing, Attempt.value_andThen]
  cases attempt.value <;> rfl

theorem value_scanOutcome (call : Call) (scanner : Scanner) (options : List ScanOption) :
    (scanner.scanOutcome call options).value =
      (scanner.checkOutcome call options).value.map fun outcome =>
        (outcome, (scanner.commit outcome).value) :=
  value_committing scanner _

theorem value_scan (call : Call) (scanner : Scanner) (options : List ScanOption) :
    (scanner.scan call options).value =
      (scanner.checkOutcome call options).value.map fun outcome =>
        let changed := (scanner.commit outcome).value
        (changed.present outcome, changed) := by
  rw [scan, Attempt.value_mapOk, value_scanOutcome]
  cases (scanner.checkOutcome call options).value <;> rfl

theorem value_scanLiteral (scanner : Scanner) (candidate : String) :
    (scanner.scanLiteral candidate).value =
      ((scanner.resolveLiteral candidate).text,
        (scanner.commit (scanner.resolveLiteral candidate)).value) :=
  rfl

theorem value_scanPattern (scanner : Scanner) (candidate : Pattern) :
    (scanner.scanPattern candidate).value =
      ((scanner.resolvePattern candidate).text,
        (scanner.commit (scanner.resolvePattern candidate)).value) :=
  rfl

theorem value_scanEnum (call : Call) (scanner : Scanner) (key : EnumKey) (value : Value) :
    (scanner.scanEnum call key value).value =
      (scanner.resolveEnum call key value).value.map fun outcome =>
        (outcome.result, (scanner.commit outcome).value) := by
  rw [scanEnum, Attempt.value_mapOk, value_committing]
  cases (scanner.resolveEnum call key value).value <;> rfl

theorem value_scanType (call : Call) (scanner : Scanner) (reference : TypeRef) :
    (scanner.scanType call reference).value =
      (scanner.resolveType call reference).value.map fun outcome =>
        (outcome.text, (scanner.commit outcome).value) := by
  rw [scanType, Attempt.value_mapOk, value_committing]
  cases (scanner.resolveType call reference).value <;> rfl

end Scanner

/-! ## Outcomes carry nothing or everything -/

/-- An outcome that a search can have: a failure, or a match with all fields. -/
inductive Outcome.WellFormed : Outcome → Prop
  | failure : WellFormed .failure
  | substituted (kind : MatchKind) (key : ScanOption) (text : String) (result : Value) :
      WellFormed (.substituted kind key text result)

/-- An outcome that a search without a value of its own can have: a failure, or a
match that reports the text it consumed. -/
inductive Outcome.Plain : Outcome → Prop
  | failure : Plain .failure
  | success (kind : MatchKind) (key : ScanOption) (text : String) :
      Plain (.success kind key text)

namespace Outcome

variable {outcome : Outcome}

theorem Plain.wellFormed (plain : outcome.Plain) : outcome.WellFormed := by
  cases plain with
  | failure => exact .failure
  | success kind key text => exact .substituted kind key text (.string text)

/-- A plain outcome reports its text. -/
theorem Plain.reported_eq (plain : outcome.Plain) :
    outcome.reported = outcome.text.map Value.string := by
  cases plain <;> rfl

/-- A well-formed outcome carries a text only if it is a match. -/
theorem WellFormed.consumed_eq (wellFormed : outcome.WellFormed) :
    outcome.consumed = outcome.text := by
  cases wellFormed <;> rfl

/-- A well-formed outcome carries a value only if it is a match. -/
theorem WellFormed.reported_eq (wellFormed : outcome.WellFormed) :
    outcome.reported = outcome.result := by
  cases wellFormed <;> rfl

/-- A well-formed outcome that is no match is the failure. -/
theorem WellFormed.eq_failure (wellFormed : outcome.WellFormed)
    (unmatched : outcome.matched = false) : outcome = .failure := by
  cases wellFormed with
  | failure => rfl
  | substituted => simp [Outcome.substituted] at unmatched

end Outcome

namespace Scanner

variable {call : Call} {scanner : Scanner} {outcome : Outcome}

theorem resolveLiteral_plain (scanner : Scanner) (candidate : String) :
    (scanner.resolveLiteral candidate).Plain := by
  unfold resolveLiteral
  split
  · exact .failure
  · split
    · exact .success _ _ _
    · exact .failure

theorem resolvePattern_plain (scanner : Scanner) (candidate : Pattern) :
    (scanner.resolvePattern candidate).Plain := by
  unfold resolvePattern
  split
  · exact .failure
  · split
    · split
      · exact .failure
      · exact .success _ _ _
    · exact .failure

theorem resolveLiteral_wellFormed (scanner : Scanner) (candidate : String) :
    (scanner.resolveLiteral candidate).WellFormed :=
  (scanner.resolveLiteral_plain candidate).wellFormed

theorem resolvePattern_wellFormed (scanner : Scanner) (candidate : Pattern) :
    (scanner.resolvePattern candidate).WellFormed :=
  (scanner.resolvePattern_plain candidate).wellFormed

/-- The outcome of a type whose routine returned something. -/
def typeOutcome (reference : TypeRef) : Option String → Outcome
  | some text => .success (.type reference.name) (.type reference) text
  | none => .failure

theorem value_resolveType (call : Call) (scanner : Scanner) (reference : TypeRef) :
    (scanner.resolveType call reference).value =
      match scanner.types.find? reference.name with
      | none => .error (.unknownType reference.name)
      | some routine =>
          (call routine reference.args scanner).value.1.map (typeOutcome reference) := by
  unfold resolveType
  cases scanner.types.find? reference.name with
  | none => rfl
  | some routine => rfl

/-- A type that is tried without an error is registered, and what its routine
returned decides the outcome. -/
theorem resolveType_eq_ok_iff {reference : TypeRef} :
    (scanner.resolveType call reference).value = .ok outcome ↔
      ∃ routine, scanner.types.find? reference.name = some routine ∧
        ∃ found, (call routine reference.args scanner).value.1 = .ok found ∧
          typeOutcome reference found = outcome := by
  rw [value_resolveType]
  cases scanner.types.find? reference.name with
  | none => simp
  | some routine => simp [map_eq_ok_iff]

theorem typeOutcome_plain (reference : TypeRef) (found : Option String) :
    (typeOutcome reference found).Plain := by
  cases found with
  | none => exact .failure
  | some text => exact .success _ _ _

theorem resolveType_plain {reference : TypeRef}
    (resolved : (scanner.resolveType call reference).value = .ok outcome) : outcome.Plain := by
  rcases resolveType_eq_ok_iff.mp resolved with ⟨_, _, found, _, rfl⟩
  exact typeOutcome_plain reference found

theorem consumed_typeOutcome (reference : TypeRef) (found : Option String) :
    (typeOutcome reference found).consumed = found := by
  cases found <;> rfl

theorem resolveKey_plain {key : EnumKey}
    (resolved : (scanner.resolveKey call key).value = .ok outcome) : outcome.Plain := by
  cases key with
  | literal candidate =>
      obtain rfl := Except.ok.inj resolved
      exact scanner.resolveLiteral_plain candidate
  | pattern candidate =>
      obtain rfl := Except.ok.inj resolved
      exact scanner.resolvePattern_plain candidate
  | type reference => exact resolveType_plain resolved

/-- The outcome of an enum whose key had an outcome. -/
def enumOutcome (key : EnumKey) (value : Value) (inner : Outcome) : Outcome :=
  match inner.consumed with
  | some text => .substituted .enumeration key.toOption text value
  | none => .failure

theorem value_resolveEnum (call : Call) (scanner : Scanner) (key : EnumKey) (value : Value) :
    (scanner.resolveEnum call key value).value =
      (scanner.resolveKey call key).value.map (enumOutcome key value) :=
  rfl

theorem enumOutcome_wellFormed (key : EnumKey) (value : Value) (inner : Outcome) :
    (enumOutcome key value inner).WellFormed := by
  unfold enumOutcome
  split
  · exact .substituted _ _ _ _
  · exact .failure

/-- An enum consumes what its key consumes. -/
theorem consumed_enumOutcome (key : EnumKey) (value : Value) (inner : Outcome) :
    (enumOutcome key value inner).consumed = inner.consumed := by
  unfold enumOutcome
  cases inner.consumed <;> rfl

/-- An enum that is tried without an error has a key that is. -/
theorem resolveEnum_eq_ok_iff {key : EnumKey} {value : Value} :
    (scanner.resolveEnum call key value).value = .ok outcome ↔
      ∃ inner, (scanner.resolveKey call key).value = .ok inner ∧
        enumOutcome key value inner = outcome := by
  rw [value_resolveEnum, map_eq_ok_iff]

end Scanner

/-! ## Options and keys of enums are searches -/

namespace Search

variable {call : Call} {scanner : Scanner} {outcome : Outcome}

/-- The search that trying one option makes. -/
def ofOption : ScanOption → Search
  | .literal candidate => .literal candidate
  | .pattern candidate => .pattern candidate
  | .type reference => .type reference
  | .enumeration key value => .enumeration key value

theorem value_resolve (call : Call) (scanner : Scanner) (option : ScanOption) :
    (scanner.resolve call option).value = (ofOption option).outcome call scanner := by
  cases option <;> rfl

/-- The first option decides unless it fails without an error. -/
theorem value_checkOutcome_cons (call : Call) (scanner : Scanner) (option : ScanOption)
    (rest : List ScanOption) :
    (scanner.checkOutcome call (option :: rest)).value =
      match (ofOption option).outcome call scanner with
      | .ok outcome =>
          if outcome.matched then .ok outcome else (scanner.checkOutcome call rest).value
      | .error error => .error error := by
  rw [Scanner.checkOutcome, Attempt.value_andThen, value_resolve]
  cases (ofOption option).outcome call scanner with
  | error error => rfl
  | ok outcome =>
      change (if outcome.matched then Attempt.ok outcome
        else scanner.checkOutcome call rest).value =
          if outcome.matched then .ok outcome else (scanner.checkOutcome call rest).value
      split <;> rfl

theorem value_checkOutcome_of_matched {option : ScanOption}
    (tried : (ofOption option).outcome call scanner = .ok outcome)
    (matched : outcome.matched = true) (rest : List ScanOption) :
    (scanner.checkOutcome call (option :: rest)).value = .ok outcome := by
  rw [value_checkOutcome_cons, tried]
  simp only [matched, if_true]

/-- An option list has the outcome of one of its options, or fails. -/
theorem checkOutcome_cases {options : List ScanOption}
    (checked : (scanner.checkOutcome call options).value = .ok outcome) :
    outcome = .failure ∨
      ∃ option ∈ options, (ofOption option).outcome call scanner = .ok outcome := by
  induction options with
  | nil => exact Or.inl (Except.ok.inj checked).symm
  | cons option rest ih =>
      rw [value_checkOutcome_cons] at checked
      cases tried : (ofOption option).outcome call scanner with
      | error error => simp [tried] at checked
      | ok first =>
          simp only [tried] at checked
          split at checked
          · obtain rfl := Except.ok.inj checked
            exact Or.inr ⟨option, List.mem_cons_self, tried⟩
          · rcases ih checked with failed | ⟨other, member, found⟩
            · exact Or.inl failed
            · exact Or.inr ⟨other, List.mem_cons_of_mem _ member, found⟩

/-- An option has the outcome of its key, or that with an own value. -/
theorem ofOption_cases (option : ScanOption)
    (tried : (ofOption option).outcome call scanner = .ok outcome) :
    ∃ key inner, (scanner.resolveKey call key).value = .ok inner ∧
      (outcome = inner ∨ ∃ value, outcome = Scanner.enumOutcome key value inner) := by
  cases option with
  | literal candidate => exact ⟨.literal candidate, outcome, tried, Or.inl rfl⟩
  | pattern candidate => exact ⟨.pattern candidate, outcome, tried, Or.inl rfl⟩
  | type reference => exact ⟨.type reference, outcome, tried, Or.inl rfl⟩
  | enumeration key value =>
      rcases Scanner.resolveEnum_eq_ok_iff.mp tried with ⟨inner, resolved, rfl⟩
      exact ⟨key, inner, resolved, Or.inr ⟨value, rfl⟩⟩

/-- Every outcome of a search is a failure, that of a literal, a pattern or a
type, or such an outcome with an own value. -/
theorem outcome_cases (search : Search)
    (searched : search.outcome call scanner = .ok outcome) :
    outcome = .failure ∨
      ∃ key inner, (scanner.resolveKey call key).value = .ok inner ∧
        (outcome = inner ∨ ∃ value, outcome = Scanner.enumOutcome key value inner) := by
  cases search with
  | firstOf options =>
      rcases checkOutcome_cases searched with failed | ⟨option, _, tried⟩
      · exact Or.inl failed
      · exact Or.inr (ofOption_cases option tried)
  | literal candidate => exact Or.inr (ofOption_cases (.literal candidate) searched)
  | pattern candidate => exact Or.inr (ofOption_cases (.pattern candidate) searched)
  | enumeration key value => exact Or.inr (ofOption_cases (.enumeration key value) searched)
  | type reference => exact Or.inr (ofOption_cases (.type reference) searched)

theorem wellFormed_of_outcome (search : Search)
    (searched : search.outcome call scanner = .ok outcome) : outcome.WellFormed := by
  rcases outcome_cases search searched with rfl | ⟨key, inner, resolved, rfl | ⟨value, rfl⟩⟩
  · exact .failure
  · exact (Scanner.resolveKey_plain resolved).wellFormed
  · exact Scanner.enumOutcome_wellFormed key value inner

/-- A list of one option has the outcome of that option. -/
theorem value_checkOutcome_singleton (call : Call) (scanner : Scanner) (option : ScanOption) :
    (scanner.checkOutcome call [option]).value = (ofOption option).outcome call scanner := by
  rw [value_checkOutcome_cons]
  cases tried : (ofOption option).outcome call scanner with
  | error error => rfl
  | ok outcome =>
      cases isMatch : outcome.matched with
      | true => simp [isMatch]
      | false =>
          -- the list goes on to its end and fails, so the outcome must have been that failure
          rw [(wellFormed_of_outcome _ tried).eq_failure isMatch]
          rfl

end Search

/-! ## What searches depend on -/

/-- What an option matches. -/
def ScanOption.key : ScanOption → EnumKey
  | .literal candidate => .literal candidate
  | .pattern candidate => .pattern candidate
  | .type reference => .type reference
  | .enumeration key _ => key

namespace Search

/-- What a search may match. -/
def keys : Search → List EnumKey
  | .firstOf options => options.map ScanOption.key
  | .literal candidate => [.literal candidate]
  | .pattern candidate => [.pattern candidate]
  | .enumeration key _ => [key]
  | .type reference => [.type reference]

variable {call otherCall : Call} {scanner other : Scanner}

theorem outcome_ofOption_congr {option : ScanOption}
    (same : (scanner.resolveKey call option.key).value =
      (other.resolveKey otherCall option.key).value) :
    (ofOption option).outcome call scanner = (ofOption option).outcome otherCall other := by
  cases option with
  | literal candidate => exact same
  | pattern candidate => exact same
  | type reference => exact same
  | enumeration key value => exact congrArg (Except.map (Scanner.enumOutcome key value)) same

theorem checkOutcome_congr {options : List ScanOption}
    (same : ∀ option ∈ options, (scanner.resolveKey call option.key).value =
      (other.resolveKey otherCall option.key).value) :
    (scanner.checkOutcome call options).value = (other.checkOutcome otherCall options).value := by
  induction options with
  | nil => rfl
  | cons option rest ih =>
      rcases List.forall_mem_cons.mp same with ⟨sameFirst, sameRest⟩
      rw [value_checkOutcome_cons, value_checkOutcome_cons, outcome_ofOption_congr sameFirst,
        ih sameRest]

/-- Where all that a search may match resolves alike, the search has the same
outcome. -/
theorem outcome_congr (search : Search)
    (same : ∀ key ∈ search.keys, (scanner.resolveKey call key).value =
      (other.resolveKey otherCall key).value) :
    search.outcome call scanner = search.outcome otherCall other := by
  cases search with
  | firstOf options =>
      apply checkOutcome_congr
      intro option member
      exact same _ (List.mem_map_of_mem member)
  | literal candidate => exact same _ (.head _)
  | pattern candidate => exact same _ (.head _)
  | enumeration key value =>
      exact congrArg (Except.map (Scanner.enumOutcome key value)) (same key (.head _))
  | type reference => exact same _ (.head _)

end Search

/-! ## What checks and scans answer and do to the scanner -/

/-- The answer of a kind that follows from the result of a search, if checks and scans
have answers of that kind. -/
def Answer.ofOutcome? (present : Outcome → ScanOutput View) :
    (kind : Kind) → Except ScannerError Outcome → Option (Answer kind)
  | .attemptOutcome, result => some result
  | .attemptOutput, result => some (result.map present)
  | .text, result => some (result.toOption.bind Outcome.text)
  | .attemptText, result => some (result.map Outcome.text)
  | .attemptValue, result => some (result.map Outcome.result)
  | _, _ => none

/-- Two answers that follow from the same result are related as answers are to
themselves, or as the outputs that present its outcome. -/
theorem Answer.ofOutcome?_related {present other : Outcome → ScanOutput View}
    {result : Except ScannerError Outcome}
    {related : {kind : Kind} → Answer kind → Answer kind → Prop}
    (refl : ∀ {kind : Kind} (answer : Answer kind), related answer answer)
    (outputs : ∀ outcome, result = .ok outcome →
      @related .attemptOutput (.ok (present outcome)) (.ok (other outcome)))
    {kind : Kind} {answer otherAnswer : Answer kind}
    (told : Answer.ofOutcome? present kind result = some answer)
    (otherTold : Answer.ofOutcome? other kind result = some otherAnswer) :
    related answer otherAnswer := by
  cases kind
  case attemptOutput =>
      obtain rfl := Option.some.inj told
      obtain rfl := Option.some.inj otherTold
      cases result with
      | error error => exact @refl .attemptOutput _
      | ok outcome => exact outputs outcome rfl
  all_goals
    obtain rfl := Option.some.inj (told.symm.trans otherTold)
    exact refl _

namespace Command

variable {kind : Kind} {command : Command kind} {search : Search}

theorem value_settle (scanner : Scanner) (attempt : Attempt Scanner) :
    (settle scanner attempt).value.2 = attempt.value.toOption.getD scanner := by
  simp only [settle, Logged.value_map]
  cases attempt.value <;> rfl

theorem value_settleWith {α : Type} (scanner : Scanner) (attempt : Attempt (α × Scanner)) :
    (settleWith scanner attempt).value.2 =
      (attempt.value.toOption.map Prod.snd).getD scanner := by
  simp only [settleWith, Logged.value_map]
  cases attempt.value <;> rfl

theorem settleWith_answer {α : Type} (scanner : Scanner) (attempt : Attempt (α × Scanner)) :
    (settleWith scanner attempt).value.1 = attempt.value.map Prod.fst := by
  simp only [settleWith, Logged.value_map]
  cases attempt.value <;> rfl

theorem scanOutcome_answer (call : Call) (scanner : Scanner) (options : List ScanOption) :
    ((scanOutcome options).run call scanner).value.1 =
      (scanner.checkOutcome call options).value := by
  simp only [run, settleWith_answer, Scanner.value_scanOutcome]
  cases (scanner.checkOutcome call options).value <;> rfl

theorem scanEnum_answer (call : Call) (scanner : Scanner) (key : EnumKey) (value : Value) :
    ((scanEnum key value).run call scanner).value.1 =
      (scanner.resolveEnum call key value).value.map Outcome.result := by
  simp only [run, settleWith_answer, Scanner.value_scanEnum]
  cases (scanner.resolveEnum call key value).value <;> rfl

theorem scanType_answer (call : Call) (scanner : Scanner) (name : String) (args : List Value) :
    ((scanType name args).run call scanner).value.1 =
      (scanner.resolveType call { name, args }).value.map Outcome.text := by
  simp only [run, settleWith_answer, Scanner.value_scanType]
  cases (scanner.resolveType call { name, args }).value <;> rfl

/-- What a check answers follows from what its search found. -/
theorem answer_of_check? (checks : command.check? = some search) (call : Call)
    (scanner : Scanner) :
    Answer.ofOutcome? (fun outcome => (scanner.present outcome).map Scanner.view) kind
        (search.outcome call scanner) =
      some (command.run call scanner).value.1 := by
  cases command <;> simp only [check?, Option.some.injEq, reduceCtorEq] at checks <;> subst checks
  case check options =>
      simp only [run, observe, Logged.value_map, Attempt.value_mapOk, Scanner.check,
        Search.outcome]
      cases (scanner.checkOutcome call options).value <;> rfl
  all_goals rfl

/-- What a scan answers follows from what its search found; outputs are presented by
the scanner behind the match. -/
theorem answer_of_scan? (scans : command.scan? = some search) (call : Call)
    (scanner : Scanner) :
    Answer.ofOutcome?
        (fun outcome => ((scanner.commit outcome).value.present outcome).map Scanner.view) kind
        (search.outcome call scanner) =
      some (command.run call scanner).value.1 := by
  cases command <;> simp only [scan?, Option.some.injEq, reduceCtorEq] at scans <;> subst scans
  case scanOutcome options => exact congrArg some (scanOutcome_answer call scanner options).symm
  case scan options =>
      simp only [run, settleWith_answer, Attempt.value_mapOk, Scanner.value_scan, Search.outcome]
      cases (scanner.checkOutcome call options).value <;> rfl
  case scanEnum key value => exact congrArg some (scanEnum_answer call scanner key value).symm
  case scanType name args => exact congrArg some (scanType_answer call scanner name args).symm
  all_goals rfl

section Answers

variable {related : {kind : Kind} → Answer kind → Answer kind → Prop} {call otherCall : Call}
  {scanner other : Scanner}

/-- Two scanners on which a check finds the same answer it alike, if they present the
outcome alike. -/
theorem answers_related_of_check?
    (refl : ∀ {kind : Kind} (answer : Answer kind), related answer answer)
    (checks : command.check? = some search)
    (same : search.outcome call scanner = search.outcome otherCall other)
    (outputs : ∀ outcome, search.outcome call scanner = .ok outcome →
      @related .attemptOutput (.ok ((scanner.present outcome).map Scanner.view))
        (.ok ((other.present outcome).map Scanner.view))) :
    related (command.run call scanner).value.1 (command.run otherCall other).value.1 := by
  have told := answer_of_check? checks call scanner
  have otherTold := answer_of_check? checks otherCall other
  rw [← same] at otherTold
  exact Answer.ofOutcome?_related refl outputs told otherTold

/-- So do two scanners on which a scan finds the same, if they present the outcome alike
once they are behind the match. -/
theorem answers_related_of_scan?
    (refl : ∀ {kind : Kind} (answer : Answer kind), related answer answer)
    (scans : command.scan? = some search)
    (same : search.outcome call scanner = search.outcome otherCall other)
    (outputs : ∀ outcome, search.outcome call scanner = .ok outcome →
      @related .attemptOutput
        (.ok (((scanner.past (.ok outcome)).present outcome).map Scanner.view))
        (.ok (((other.past (.ok outcome)).present outcome).map Scanner.view))) :
    related (command.run call scanner).value.1 (command.run otherCall other).value.1 := by
  have told := answer_of_scan? scans call scanner
  have otherTold := answer_of_scan? scans otherCall other
  rw [← same] at otherTold
  exact Answer.ofOutcome?_related refl outputs told otherTold

end Answers

/-- A check leaves the scanner alone. -/
theorem run_of_check? (checks : command.check? = some search) (call : Call)
    (scanner : Scanner) : (command.run call scanner).value.2 = scanner := by
  cases command <;> first | rfl | simp [check?] at checks

/-- A scan leaves the scanner behind what its search consumed. -/
theorem run_of_scan? (scans : command.scan? = some search) (call : Call)
    (scanner : Scanner) :
    (command.run call scanner).value.2 = scanner.past (search.outcome call scanner) := by
  cases command <;> simp only [scan?, Option.some.injEq, reduceCtorEq] at scans <;> subst scans
  case scanLiteral candidate => rfl
  case scanPattern candidate => rfl
  case scanOutcome options =>
      simp only [run, value_settleWith, Scanner.value_scanOutcome, Search.outcome]
      cases (scanner.checkOutcome call options).value <;> rfl
  case scan options =>
      simp only [run, value_settleWith, Attempt.value_mapOk, Scanner.value_scan, Search.outcome]
      cases (scanner.checkOutcome call options).value <;> rfl
  case scanEnum key value =>
      simp only [run, value_settleWith, Scanner.value_scanEnum, Search.outcome]
      cases (scanner.resolveEnum call key value).value <;> rfl
  case scanType name args =>
      simp only [run, value_settleWith, Scanner.value_scanType, Search.outcome]
      cases (scanner.resolveType call { name, args }).value <;> rfl

end Command

end TextScanner
