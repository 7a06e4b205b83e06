import TextScanner.LogRecord

/-!
# Computations that log

A computation that logs returns its records beside its value, in order.  An
attempt may fail; the records made before the failure stay.  What a computation
returns does not depend on its records (`Logged.value_bind`).
-/

namespace TextScanner

/-- A value and the records made on the way to it. -/
structure Logged (α : Type) where
  value : α
  records : List LogRecord := []

namespace Logged

variable {α β : Type}

instance : Monad Logged where
  pure value := ⟨value, []⟩
  bind first next :=
    let second := next first.value
    ⟨second.value, first.records ++ second.records⟩

/-- A value with one record. -/
def note (record : LogRecord) (value : α) : Logged α :=
  ⟨value, [record]⟩

@[simp]
theorem value_pure (value : α) : (pure value : Logged α).value = value :=
  rfl

@[simp]
theorem value_note (record : LogRecord) (value : α) : (note record value).value = value :=
  rfl

@[simp]
theorem value_bind (first : Logged α) (next : α → Logged β) :
    (first >>= next).value = (next first.value).value :=
  rfl

/-- Change the value. -/
def map (change : α → β) (first : Logged α) : Logged β :=
  ⟨change first.value, first.records⟩

@[simp]
theorem value_map (change : α → β) (first : Logged α) :
    (first.map change).value = change first.value :=
  rfl

end Logged

/-- A computation that logs and that may fail. -/
abbrev Attempt (α : Type) := Logged (Except ScannerError α)

namespace Attempt

variable {α β : Type}

/-- Succeed. -/
def ok (value : α) : Attempt α :=
  ⟨.ok value, []⟩

/-- Fail. -/
def fail (error : ScannerError) : Attempt α :=
  ⟨.error error, []⟩

/-- Succeed with one record. -/
def note (record : LogRecord) (value : α) : Attempt α :=
  Logged.note record (.ok value)

/-- Go on after success. -/
def andThen (first : Attempt α) (next : α → Attempt β) : Attempt β :=
  match first.value with
  | .ok value =>
      let second := next value
      ⟨second.value, first.records ++ second.records⟩
  | .error error => ⟨.error error, first.records⟩

/-- Change the value of a success. -/
def mapOk (change : α → β) (first : Attempt α) : Attempt β :=
  ⟨first.value.map change, first.records⟩

@[simp]
theorem value_ok (value : α) : (ok value).value = .ok value :=
  rfl

@[simp]
theorem value_fail (error : ScannerError) : (fail error : Attempt α).value = .error error :=
  rfl

@[simp]
theorem value_attempt_note (record : LogRecord) (value : α) :
    (note record value).value = .ok value :=
  rfl

/-- Only the value of the first part matters for the value of both. -/
theorem value_andThen (first : Attempt α) (next : α → Attempt β) :
    (first.andThen next).value = first.value.bind fun value => (next value).value := by
  unfold andThen
  cases first.value <;> rfl

/-- Two parts succeed together when each of them does. -/
theorem value_andThen_eq_ok_iff {first : Attempt α} {next : α → Attempt β} {result : β} :
    (first.andThen next).value = .ok result ↔
      ∃ value, first.value = .ok value ∧ (next value).value = .ok result := by
  rw [value_andThen]
  cases first.value with
  | error error => simp [Except.bind]
  | ok value => simp [Except.bind]

@[simp]
theorem value_mapOk (change : α → β) (first : Attempt α) :
    (first.mapOk change).value = first.value.map change :=
  rfl

end Attempt

end TextScanner
