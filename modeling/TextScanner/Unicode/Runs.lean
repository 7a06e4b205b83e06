/-!
# Tables of runs

A property of code points that changes rarely is listed by its runs: where a
run starts and which value holds from there on.  The tables of this folder
write a run as its start in hexadecimal, in small letters, followed by the
value, which starts with a capital letter; a property that only holds or does
not is written as the code points where it changes.
-/

namespace TextScanner.Unicode

/-- The value of a small hexadecimal digit. -/
def hexDigit? (char : Char) : Option Nat :=
  if '0' ≤ char ∧ char ≤ '9' then some (char.toNat - '0'.toNat)
  else if 'a' ≤ char ∧ char ≤ 'f' then some (char.toNat - 'a'.toNat + 10)
  else none

/-- Read hexadecimal digits up to the first other character. -/
def readHex : Nat → List Char → Nat × List Char
  | value, [] => (value, [])
  | value, char :: rest =>
      match hexDigit? char with
      | some digit => readHex (16 * value + digit) rest
      | none => (value, char :: rest)

/-- Runs by increasing start. -/
abbrev Runs (α : Type) := Array (Nat × α)

namespace Runs

variable {α : Type}

/-- Read the runs of a table; a run whose value is unknown is left out. -/
def ofLines (value? : String → Option α) (lines : List String) : Runs α :=
  lines.foldl
    (fun runs line =>
      (line.splitOn " ").foldl
        (fun runs word =>
          let (start, label) := readHex 0 word.toList
          match value? (String.ofList label) with
          | some value => runs.push (start, value)
          | none => runs)
        runs)
    #[]

/-- Read the code points at which a property changes.  It does not hold
before the first. -/
def ofChanges (lines : List String) : Runs Bool :=
  lines.foldl
    (fun runs line =>
      (line.splitOn " ").foldl
        (fun runs word => runs.push ((readHex 0 word.toList).1, runs.size % 2 == 0)) runs)
    #[]

/-- The run with the greatest index below `high` that starts at or before a
code point, known not to have an index below `low - 1`. -/
def locate (runs : Runs α) (code : Nat) : Nat → Nat → Nat → Option α
  | 0, low, _ => (runs[low - 1]?).map Prod.snd
  | fuel + 1, low, high =>
      if low < high then
        let middle := (low + high) / 2
        match runs[middle]? with
        | none => none
        | some (start, _) =>
            if start ≤ code then locate runs code fuel (middle + 1) high
            else locate runs code fuel low middle
      else if low = 0 then none
      else (runs[low - 1]?).map Prod.snd

/-- The value at a code point, if a run has started there. -/
def at? (runs : Runs α) (code : Nat) : Option α :=
  runs.locate code (runs.size + 1) 0 runs.size

end Runs

end TextScanner.Unicode
