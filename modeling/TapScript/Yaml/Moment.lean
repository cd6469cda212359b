import TapScript.Text.Digit
import TapScript.Value.Basic

/-! # Moments

A moment is a day and a time on the clock, to the microsecond, and possibly the zone of the clock.
It is a value without parts, of which only its texts can be seen.
-/

namespace TapScript.Yaml

/-- A moment; its zone is the minutes by which its clock is ahead of the common one. -/
structure Moment where
  day : Day
  hour : Nat
  minute : Nat
  second : Nat
  micros : Nat
  zone : Option Int
  deriving DecidableEq, Repr

namespace Moment

open Decimal (padded)

section Reading

/-- The digits at the front of some characters, at least `least` and at most `most`. -/
def takeDigits? (least most : Nat) (cs : List Char) : Option (Nat × List Char) :=
  let ds := (cs.takeWhile Char.isDigit).take most
  if ds.length < least then none else some (Text.digitsValue ds, cs.drop ds.length)

/-- The rest after a given character. -/
def after? (c : Char) : List Char → Option (List Char)
  | d :: cs => if d = c then some cs else none
  | [] => none

/-- The zone that some characters write, if they write one or are none. -/
def zone? (cs : List Char) : Option (Option Int) :=
  match cs.dropWhile fun c => c == ' ' || c == '\t' with
  | [] => if cs.isEmpty then some none else none
  | ['Z'] => some (some 0)
  | sign :: rest =>
    let ahead (minutes : Nat) : Option (Option Int) :=
      if sign = '+' then some (some minutes)
      else if sign = '-' then some (some (-minutes))
      else none
    match takeDigits? 1 2 rest with
    | some (hours, []) => ahead (60 * hours)
    | some (hours, ':' :: rest) =>
      match takeDigits? 2 2 rest with
      | some (minutes, []) => ahead (60 * hours + minutes)
      | _ => none
    | _ => none

/-- The microseconds that the digits of a fraction write, of which six count. -/
def microsOf (ds : List Char) : Nat :=
  let ds := ds.take 6
  Text.digitsValue (ds ++ List.replicate (6 - ds.length) '0')

/-- The moment that some characters write. -/
def ofChars? (cs : List Char) : Option Moment := do
  let (year, cs) ← takeDigits? 4 4 cs
  let (month, cs) ← takeDigits? 1 2 (← after? '-' cs)
  let (day, cs) ← takeDigits? 1 2 (← after? '-' cs)
  let cs ←
    match cs with
    | 'T' :: cs | 't' :: cs => some cs
    | ' ' :: cs | '\t' :: cs => some (cs.dropWhile fun c => c == ' ' || c == '\t')
    | _ => none
  let (hour, cs) ← takeDigits? 1 2 cs
  let (minute, cs) ← takeDigits? 2 2 (← after? ':' cs)
  let (second, cs) ← takeDigits? 2 2 (← after? ':' cs)
  let (fraction, cs) : List Char × List Char :=
    match cs with
    | '.' :: cs => (cs.takeWhile Char.isDigit, cs.dropWhile Char.isDigit)
    | cs => ([], cs)
  let zone ← zone? cs
  some ⟨⟨year, month, day⟩, hour, minute, second, microsOf fraction, zone⟩

end Reading

section Writing

/-- A length of time in minutes, as days and seconds of which only the days are negative. -/
def spanText (minutes : Int) : String :=
  let days := minutes / 1440
  let seconds := minutes % 1440 * 60
  let parts := (if days = 0 then [] else [s!"days={days}"]) ++
    (if seconds = 0 then [] else [s!"seconds={seconds}"])
  if parts.isEmpty then "datetime.timedelta(0)"
  else "datetime.timedelta(" ++ ", ".intercalate parts ++ ")"

/-- The plain text of a moment. -/
def text (t : Moment) : String :=
  let zone := match t.zone with
    | none => ""
    | some n =>
      (if n < 0 then "-" else "+") ++ padded 2 (n.natAbs / 60) ++ ":" ++ padded 2 (n.natAbs % 60)
  t.day.text ++ " " ++ padded 2 t.hour ++ ":" ++ padded 2 t.minute ++ ":" ++ padded 2 t.second ++
    (if t.micros = 0 then "" else "." ++ padded 6 t.micros) ++ zone

/-- The shown form of a moment, without seconds and microseconds that are zero. -/
def shown (t : Moment) : String :=
  let fine :=
    if t.micros = 0 then (if t.second = 0 then [] else [t.second]) else [t.second, t.micros]
  let parts := [t.day.year, t.day.month, t.day.day, t.hour, t.minute] ++ fine
  let zone := match t.zone with
    | none => []
    | some 0 => ["tzinfo=datetime.timezone.utc"]
    | some n => ["tzinfo=datetime.timezone(" ++ spanText n ++ ")"]
  "datetime.datetime(" ++ ", ".intercalate (parts.map toString ++ zone) ++ ")"

/-- A moment as a value. -/
def toValue (t : Moment) : Value :=
  .object "datetime" t.text t.shown

end Writing

/-- Why the zone of a moment is none, if it is as far off as a day. -/
def zoneObjection? (t : Moment) : Option String :=
  if 1440 ≤ (t.zone.getD 0).natAbs then
    some ("offset must be a timedelta strictly between -timedelta(hours=24) and " ++
      "timedelta(hours=24), not " ++ spanText (t.zone.getD 0))
  else none

end Moment

end TapScript.Yaml
