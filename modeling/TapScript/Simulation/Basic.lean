import TapScript.Decimal.Binary
import TapScript.Run.Engine

/-! # Simulated sessions

Scripts can be rehearsed without a device. A simulated session has a clock that only its pauses
move, keeps a journal of every call made on it, and can be told to fail chosen calls.
-/

namespace TapScript

namespace Simulation

/-- A call in the journal, with the time of the clock in milliseconds. -/
structure Event where
  clock : Float
  name : String
  args : List Value

/-- A fault to raise at the call of a name with a number, or at all calls of the name. -/
structure Plan where
  name : String
  nth : Option Nat
  fault : Fault

/-- An element of a page: how often it is there and from when, where it is drawn if it is, and its
attributes. -/
structure Element where
  count : Nat := 1
  appears : Float := 0
  box : Option (Float × Float) := none
  attributes : List (String × Value) := []

end Simulation

/-- A simulated session. -/
structure Simulation where
  clock : Float := 0
  journal : List Simulation.Event := []
  made : List String := []
  plans : List Simulation.Plan := []
  elements : List (String × Simulation.Element) := []

namespace Simulation

/-- Enters a call in the journal, and raises the fault that is planned for it. -/
def record (name : String) (args : List Value) : Act Simulation Unit := do
  let w ← get
  let s := w.devices
  let made := name :: s.made
  let n := made.count name
  let event : Event := ⟨s.clock, name, args⟩
  set { w with devices := { s with made, journal := s.journal ++ [event] } }
  match s.plans.find? fun p => p.name == name && p.nth.all (· == n) with
  | some p => throw p.fault
  | none => pure ()

/-- Moves the clock. -/
def pass (ms : Float) : Act Simulation Unit :=
  modify fun w => { w with devices := { w.devices with clock := w.devices.clock + ms } }

/-- An element that is there at the present time. -/
def present? (key : String) : Act Simulation (Option Element) := do
  let s := (← get).devices
  return (s.elements.lookup key).filter fun e => e.count != 0 && !(s.clock < e.appears)

/-- The moment at which the clock of every simulated session starts. -/
def epoch : Timestamp :=
  .ofDay ⟨2024, 1, 1⟩

/-- The time that the clock shows, to the nearest microsecond. -/
def time (s : Simulation) : Timestamp :=
  let limit : Float := 1000000000000
  let clock := if s.clock != s.clock then 0
    else if s.clock < -limit then -limit
    else if limit < s.clock then limit
    else s.clock
  ⟨epoch.micros + (Decimal.nearest? (clock * 1000)).getD 0⟩

/-- The names of the digits. -/
def digitNames : List String :=
  ["ZERO", "ONE", "TWO", "THREE", "FOUR", "FIVE", "SIX", "SEVEN", "EIGHT", "NINE"]

/-- The characters that have names in patterns: digits and Latin letters. -/
def character? (name : String) : Option Char :=
  match name.toUpper.splitOn " " with
  | ["DIGIT", digit] => (digitNames.idxOf? digit).map Nat.digitChar
  | ["LATIN", size, "LETTER", letter] =>
    match size, letter.toList with
    | "CAPITAL", [c] => if c.isUpper then some c else none
    | "SMALL", [c] => if c.isUpper then some c.toLower else none
    | _, _ => none
  | _ => none

/-- How deep the parentheses in some characters are nested. -/
def nesting (cs : List Char) : Nat :=
  (cs.foldl (fun (depth, deepest) c =>
    if c = '(' then (depth + 1, max deepest (depth + 1))
    else if c = ')' then (depth - 1, deepest)
    else (depth, deepest)) (0, 0)).2

/-- Patterns are read unless they are nested too deeply. -/
def patterns : Regex.Host where
  character? := character?
  exhausted? pattern :=
    if 480 < nesting pattern.toList then some "maximum recursion depth exceeded" else none

/-- The host of a simulated session enters library calls in the journal. -/
def host : Host Simulation where
  enter library routine args :=
    record "lib" [.text (Registry.dotted library), .text routine, .list args]
  now := time
  patterns := patterns

end Simulation

end TapScript
