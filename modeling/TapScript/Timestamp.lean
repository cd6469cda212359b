import TapScript.Day

/-! # Timestamps

A timestamp is a moment of the common calendar, counted in microseconds from the start of the
year one. Durations are given in whole milliseconds, by way of seconds as a double.
-/

namespace TapScript

/-- A moment, in microseconds from the start of the year one. -/
structure Timestamp where
  micros : Int
  deriving DecidableEq, Repr

namespace Timestamp

open Decimal (padded)

/-- The microseconds of a day. -/
def microsPerDay : Nat := 86400000000

/-- The start of a day. -/
def ofDay (d : Day) : Timestamp :=
  ⟨d.number * microsPerDay⟩

/-- The written form; a fraction of six digits is given only if it is not zero. -/
def text (t : Timestamp) : String :=
  let n := t.micros.toNat
  let day := Day.ofNumber (n / microsPerDay)
  let inDay := n % microsPerDay
  let seconds := inDay / 1000000
  let fraction := inDay % 1000000
  day.text ++ "T" ++ padded 2 (seconds / 3600) ++ ":" ++ padded 2 (seconds / 60 % 60)
    ++ ":" ++ padded 2 (seconds % 60) ++ (if fraction = 0 then "" else "." ++ padded 6 fraction)

/-- The whole milliseconds from one moment to another. -/
def millisFrom (start stop : Timestamp) : Int :=
  let micros := stop.micros - start.micros
  let seconds := Float.ofScientific micros.natAbs true 6
  let size := (Decimal.truncate? (seconds * 1000)).getD 0
  if micros < 0 then -size else size

end Timestamp

end TapScript
