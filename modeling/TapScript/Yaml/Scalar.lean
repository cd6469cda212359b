import TapScript.Integer
import TapScript.Numeral
import TapScript.Text.Split
import TapScript.Yaml.Moment

/-! # Plain scalars

A scalar without quotes is a truth value, a number, a day or nothing if it is written like one,
and a text otherwise.
-/

namespace TapScript.Yaml

/-- What a plain scalar stands for. -/
inductive Scalar
  | value (v : Value)
  | merge
  | unusable
  | noSuchValue (reason : String)

namespace Scalar

/-- The words for true. -/
def trueWords : List String :=
  ["yes", "Yes", "YES", "true", "True", "TRUE", "on", "On", "ON"]

/-- The words for false. -/
def falseWords : List String :=
  ["no", "No", "NO", "false", "False", "FALSE", "off", "Off", "OFF"]

/-- The words for nothing. -/
def nullWords : List String :=
  ["", "~", "null", "Null", "NULL"]

def isDigit (c : Char) : Bool :=
  c.isDigit

/-- A digit, or an underscore between digits. -/
def isDigitOrBar (c : Char) : Bool :=
  c.isDigit || c == '_'

/-- A leading sign, and whether it is a minus. -/
def takeSign : List Char → Bool × List Char
  | '-' :: cs => (true, cs)
  | '+' :: cs => (false, cs)
  | cs => (false, cs)

/-- The value of digits in a base, without regard to underscores. -/
def valueIn (base : Nat) (cs : List Char) : Nat :=
  (cs.filter (· != '_')).foldl (fun n c =>
    base * n + (if c.isDigit then c.toNat - 48 else c.toLower.toNat - 87)) 0

/-- Pieces between colons that count minutes or seconds. -/
def isSixtieth (cs : List Char) : Bool :=
  match cs with
  | [c] => c.isDigit
  | [c, d] => '0' ≤ c && c ≤ '5' && d.isDigit
  | _ => false

/-- The number that pieces write to the base of sixty. -/
def sixties (pieces : List (List Char)) : Nat :=
  pieces.foldl (fun n p => 60 * n + valueIn 10 p) 0

/-- Digits that start with none of zero and underscore. -/
def isLeading (cs : List Char) : Bool :=
  match cs with
  | c :: cs => '1' ≤ c && c ≤ '9' && cs.all isDigitOrBar
  | [] => false

/-- The size of an integer without its sign. -/
def magnitude? (cs : List Char) : Option Nat :=
  match cs with
  | ['0'] => some 0
  | '0' :: 'b' :: ds =>
    if ds ≠ [] ∧ ds.all (fun c => c == '0' || c == '1' || c == '_') then some (valueIn 2 ds)
    else none
  | '0' :: 'x' :: ds =>
    if ds ≠ [] ∧ ds.all (fun c => c.isDigit || c == '_' || ('a' ≤ c && c ≤ 'f') ||
        ('A' ≤ c && c ≤ 'F')) then some (valueIn 16 ds)
    else none
  | '0' :: ds =>
    if ds.all (fun c => ('0' ≤ c && c ≤ '7') || c == '_') then some (valueIn 8 ds) else none
  | ds =>
    match Text.splitOn ':' ds with
    | [p] => if isLeading p then some (valueIn 10 p) else none
    | p :: ps => if isLeading p && ps.all isSixtieth then some (sixties (p :: ps)) else none
    | [] => none

/-- The base of an integer that has the mark of its base and no digit after it, only
underscores. -/
def emptyBase? (cs : List Char) : Option Nat :=
  match (takeSign cs).2.filter (· != '_') with
  | ['0', 'b'] => some 2
  | ['0', 'x'] => some 16
  | _ => none

/-- The length of the first run of decimal digits that is too long to be read. -/
def longRun? (cs : List Char) : Option Nat :=
  let ds := (takeSign cs).2.filter (· != '_')
  if ds.head? = some '0' then none
  else ((Text.splitOn ':' ds).map List.length).find? (IntegerError.maxDigits < ·)

/-- The integer that a scalar writes. -/
def integer? (cs : List Char) : Option Int :=
  let (negative, ds) := takeSign cs
  (magnitude? ds).map fun n => if negative then -(n : Int) else n

/-- The power of ten after a fraction, which must have a sign. -/
def exponent? : List Char → Option Int
  | [] => some 0
  | e :: sign :: ds =>
    if (e == 'e' || e == 'E') && (sign == '+' || sign == '-') && !ds.isEmpty && ds.all isDigit then
      some (if sign = '-' then -(valueIn 10 ds : Int) else valueIn 10 ds)
    else none
  | _ => none

/-- A decimal with a point, given by the digits on either side and what follows. -/
def decimal? (whole rest : List Char) : Option Float :=
  let fraction := rest.takeWhile isDigitOrBar
  (exponent? (rest.dropWhile isDigitOrBar)).map fun e =>
    Numeral.scale (valueIn 10 (whole ++ fraction))
      (e - ((fraction.filter (· != '_')).length : Int))

/-- The double that a scalar without a sign writes; one that had a sign needs a leading digit. -/
def fraction? (signed : Bool) (cs : List Char) : Option Float :=
  let head := cs.takeWhile (· != '.')
  match cs.dropWhile (· != '.') with
  | [] => none
  | _ :: rest =>
    match head with
    | [] =>
      match rest with
      | c :: _ => if !signed && c.isDigit then decimal? [] rest else none
      | [] => none
    | c :: _ =>
      if !c.isDigit then none
      else if head.all isDigitOrBar then decimal? head rest
      else
        match Text.splitOn ':' head with
        | p :: ps =>
          if p.all isDigitOrBar && ps.all isSixtieth && rest.all isDigitOrBar then
            let places := (rest.filter (· != '_')).length
            let last := (ps.getLastD []) ++ rest
            let bases := (List.range ps.length).map fun i => Float.ofNat (Nat.pow 60 (i + 1))
            some (((p :: ps.dropLast).reverse.zip bases).foldl
              (fun x (q, b) => x + Float.ofNat (valueIn 10 q) * b)
              (Numeral.scale (valueIn 10 last) (-(places : Int))))
          else none
        | [] => none

/-- The double that a scalar writes. -/
def float? (cs : List Char) : Option Float :=
  let (negative, ds) := takeSign cs
  let signed := ds.length != cs.length
  let text := String.ofList ds
  let size :=
    if text ∈ [".inf", ".Inf", ".INF"] then some (1 / 0)
    else if !signed && text ∈ [".nan", ".NaN", ".NAN"] then some (0 / 0)
    else fraction? signed ds
  size.map fun x => if negative then -x else x

/-- A day as a value, if the calendar has it. -/
def ofDay (d : Day) : Scalar :=
  if d.isValid then value (.date d)
  else if d.year = 0 then noSuchValue "year 0 is out of range"
  else if d.month = 0 || 12 < d.month then noSuchValue "month must be in 1..12"
  else noSuchValue "day is out of range for month"

/-- The day that a scalar writes, with all its digits. -/
def day? (cs : List Char) : Option Day :=
  match Text.splitOn '-' cs with
  | [y, m, d] =>
    if y.length = 4 ∧ m.length = 2 ∧ d.length = 2 ∧ (y ++ m ++ d).all isDigit then
      some ⟨valueIn 10 y, valueIn 10 m, valueIn 10 d⟩
    else none
  | _ => none

/-- A moment as a value, if there is such a zone and the calendar and the clock have it. -/
def ofMoment (t : Moment) : Scalar :=
  match t.zoneObjection? with
  | some reason => noSuchValue reason
  | none =>
    match ofDay t.day with
    | value _ =>
      if 23 < t.hour then noSuchValue "hour must be in 0..23"
      else if 59 < t.minute then noSuchValue "minute must be in 0..59"
      else if 59 < t.second then noSuchValue "second must be in 0..59"
      else value t.toValue
    | s => s

/-- An integer as a value, if no run of its decimal digits is too long. -/
def ofInteger (cs : List Char) (n : Int) : Scalar :=
  match emptyBase? cs, longRun? cs with
  | some b, _ => noSuchValue s!"invalid literal for int() with base {b}: ''"
  | none, some digits => noSuchValue (IntegerError.tooLong digits).message
  | none, none => value (.int n)

/-- What a plain scalar stands for. -/
def ofPlain (s : String) : Scalar :=
  let cs := s.toList
  if s ∈ nullWords then value .none
  else if s ∈ trueWords then value (.bool true)
  else if s ∈ falseWords then value (.bool false)
  else if s = "<<" then merge
  else if s = "=" then unusable
  else
    match float? cs with
    | some x => value (.float x)
    | none =>
      match integer? cs with
      | some n => ofInteger cs n
      | none =>
        match day? cs with
        | some d => ofDay d
        | none =>
          match Moment.ofChars? cs with
          | some t => ofMoment t
          | none => value (.text s)

end Scalar

end TapScript.Yaml
