import TextScanner.Pattern.Node

/-!
# Running patterns

A node is laid out as numbered steps: take a character, ask for a place, try
one step and then another, or accept.  A text is matched from its beginning by
following all steps at once, in order of preference: before each character the
steps that take a character are gathered, those behind an accepting step are
dropped, and the rest take the character together.  So the longest of the
texts is not what counts, but the one that is preferred first, and the time is
bounded by the length of the text times the number of steps.

The result is the length of a beginning of the text, hence never more than its
length.
-/

namespace TextScanner.Pattern

/-- A numbered step of a program. -/
inductive Step where
  | take (members : CharClass) (next : Nat)
  | ask (kind : Place) (isWord : Char → Bool) (next : Nat)
  /-- Try the first step, and after everything behind it the second. -/
  | fork (first second : Nat)
  | accept

/-- The steps of a pattern, and the first of them. -/
structure Program where
  steps : Array Step
  start : Nat

namespace Program

/-- Lay out a node before a step; returns the step to begin with. -/
def layOut : Node → (next : Nat) → Array Step → Nat × Array Step
  | .empty, next, steps => (next, steps)
  | .one members, next, steps => (steps.size, steps.push (.take members next))
  | .place kind isWord, next, steps => (steps.size, steps.push (.ask kind isWord next))
  | .sequence first second, next, steps =>
      let (middle, steps) := layOut second next steps
      layOut first middle steps
  | .choice first second, next, steps =>
      let (left, steps) := layOut first next steps
      let (right, steps) := layOut second next steps
      (steps.size, steps.push (.fork left right))
  | .loop greedy body, next, steps =>
      let again := steps.size
      let (inside, steps) := layOut body again (steps.push .accept)
      (inside, steps.set! again (if greedy then .fork inside next else .fork next inside))

/-- The program of a node. -/
def ofNode (node : Node) : Program :=
  let (start, steps) := layOut node 0 #[.accept]
  ⟨steps, start⟩

/-- The taking steps that can be reached, in order of preference, and whether
acceptance can.  What is less preferred than acceptance is left out. -/
structure Reached where
  takers : List Nat := []
  accepted : Bool := false

/-- Follow the steps of a list without taking a character.  `seen` marks the
steps followed already, `takers` holds those found so far, the latest first.
Every step is followed once, so `fuel` need not exceed twice the number of
steps plus the length of the list. -/
def follow (program : Program) (before after : Option Char) :
    (fuel : Nat) → (pending : List Nat) → (seen : Array Bool) → (takers : List Nat) → Reached
  | 0, _, _, takers => { takers := takers.reverse }
  | _ + 1, [], _, takers => { takers := takers.reverse }
  | fuel + 1, step :: pending, seen, takers =>
      if seen.getD step true then follow program before after fuel pending seen takers
      else
        let seen := seen.set! step true
        match program.steps[step]? with
        | none => follow program before after fuel pending seen takers
        | some (.take _ _) => follow program before after fuel pending seen (step :: takers)
        | some (.ask kind isWord next) =>
            let pending := if kind.holds isWord before after then next :: pending else pending
            follow program before after fuel pending seen takers
        | some (.fork first second) =>
            follow program before after fuel (first :: second :: pending) seen takers
        | some .accept => { takers := takers.reverse, accepted := true }

/-- What can be reached from a list of steps. -/
def reach (program : Program) (before after : Option Char) (pending : List Nat) : Reached :=
  let size := program.steps.size
  program.follow before after (2 * size + pending.length + 1) pending
    (Array.replicate size false) []

/-- The steps behind those takers that take a character. -/
def takeChar (program : Program) (char : Char) (takers : List Nat) : List Nat :=
  takers.filterMap fun (step : Nat) =>
    match program.steps[step]? with
    | some (.take members next) => if members.contains char then some next else none
    | _ => none

/-- Match on, `passed` characters into the text; `best` is the length that was
accepted last. -/
def run (program : Program) : (before : Option Char) → (pending : List Nat) →
    (passed : Nat) → (best : Option Nat) → List Char → Option Nat
  | before, pending, passed, best, [] =>
      if (program.reach before none pending).accepted then some passed else best
  | before, pending, passed, best, char :: rest =>
      let reached := program.reach before (some char) pending
      let best := if reached.accepted then some passed else best
      if reached.takers.isEmpty then best
      else
        program.run (some char) (program.takeChar char reached.takers) (passed + 1) best rest

/-- The length of the beginning of a text that the program matches. -/
def matchLength? (program : Program) (chars : List Char) : Option Nat :=
  program.run none [program.start] 0 none chars

end Program

end TextScanner.Pattern
