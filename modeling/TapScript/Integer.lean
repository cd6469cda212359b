import TapScript.Text.Blank
import TapScript.Text.Digit
import TapScript.Text.Quoted

/-! # Integers as text

A text writes an integer in decimal digits of any script, with at most one minus sign before them.
Runs of digits are neither read nor written if they are too long. Where integers are written
freely, there may be blanks around them, a sign of either kind, and underscores between digits.
-/

namespace TapScript

/-- A text that is not read as an integer, or an integer that is not written as a text. -/
inductive IntegerError
  | misspelled (text : String)
  | tooLong (digits : Nat)
  | tooLarge
  deriving DecidableEq, Repr

namespace IntegerError

/-- The most digits that are read or written. -/
def maxDigits : Nat := 4300

/-- The least size of an integer that is not written. -/
def limit : Nat := Nat.pow 10 maxDigits

/-- A misspelled integer is quoted, but cut off after 200 characters. -/
def message : IntegerError → String
  | misspelled s =>
    "invalid literal for int() with base 10: " ++ String.ofList ((Text.quoted s).toList.take 200)
  | tooLong n =>
    s!"Exceeds the limit ({maxDigits} digits) for integer string conversion: " ++
      s!"value has {n} digits; use sys.set_int_max_str_digits() to increase the limit"
  | tooLarge =>
    s!"Exceeds the limit ({maxDigits} digits) for integer string conversion; " ++
      "use sys.set_int_max_str_digits() to increase the limit"

end IntegerError

namespace Text

/-- The sign of an integer. -/
def signOf : List Char → Int
  | '-' :: _ => -1
  | _ => 1

/-- The digits of an integer, after its sign if it has one. -/
def digitsOf : List Char → List Char
  | '-' :: ds => ds
  | ds => ds

/-- The integer that a text writes. The run of digits is measured before anything after it is
looked at. -/
def integer (s : String) : Except IntegerError Int :=
  let ds := digitsOf s.toList
  let run := ds.takeWhile isDigit
  if IntegerError.maxDigits < run.length then .error (.tooLong run.length)
  else if ds = [] ∨ run ≠ ds then .error (.misspelled s)
  else .ok (signOf s.toList * digitsValue ds)

/-- The text that writes an integer in plain digits. -/
def ofInteger (n : Int) : Except IntegerError String :=
  if IntegerError.limit ≤ n.natAbs then .error .tooLarge else .ok (toString n)

/-- A blank that may stand around an integer, as any may but for four separators. -/
def isMargin (c : Char) : Bool :=
  isBlank c && !(0x1c ≤ c.toNat && c.toNat ≤ 0x1f)

/-- The digits of a number in which single underscores may divide them. -/
def undivided? : List Char → Option (List Char)
  | [] => none
  | [d] => if isDigit d then some [d] else none
  | d :: '_' :: ds => if isDigit d then (undivided? ds).map (d :: ·) else none
  | d :: ds => if isDigit d then (undivided? ds).map (d :: ·) else none

/-- The integer that some characters write freely. -/
def freeInteger? (cs : List Char) : Option Int :=
  let cs := ((cs.dropWhile isMargin).reverse.dropWhile isMargin).reverse
  let (sign, ds) : Int × List Char :=
    match cs with
    | '-' :: ds => (-1, ds)
    | '+' :: ds => (1, ds)
    | ds => (1, ds)
  (undivided? ds).bind fun ds =>
    if IntegerError.maxDigits < ds.length then none else some (sign * digitsValue ds)

end Text

end TapScript
