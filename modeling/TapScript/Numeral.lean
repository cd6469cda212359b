import TapScript.Text.Digit

/-! # Numerals

A numeral is a finite decimal number as scripts write it: an optional sign, digits with an
optional point, and an optional power of ten. The digits may come from any script.
-/

namespace TapScript

/-- A decimal number as written. -/
structure Numeral where
  negative : Bool
  whole : List Char
  fraction : List Char
  exponent : Int
  deriving DecidableEq, Repr

namespace Numeral

open Text

/-- A leading sign and what follows it. -/
def takeSign : List Char → Bool × List Char
  | '+' :: cs => (false, cs)
  | '-' :: cs => (true, cs)
  | cs => (false, cs)

/-- The power of ten that ends a numeral. -/
def readExponent? : List Char → Option Int
  | [] => some 0
  | c :: cs =>
    if c = 'e' ∨ c = 'E' then
      let (negative, ds) := takeSign cs
      if ds ≠ [] ∧ ds.all isDigit then
        some (if negative then -(digitsValue ds : Int) else digitsValue ds)
      else none
    else none

/-- The fraction digits after a point, and what follows them. -/
def takeFraction : List Char → List Char × List Char
  | '.' :: cs => (cs.takeWhile isDigit, cs.dropWhile isDigit)
  | cs => ([], cs)

/-- The numeral that some characters write, all of them. -/
def read? (cs : List Char) : Option Numeral :=
  let (negative, cs) := takeSign cs
  let whole := cs.takeWhile isDigit
  let (fraction, rest) := takeFraction (cs.dropWhile isDigit)
  if whole = [] ∧ fraction = [] then none
  else (readExponent? rest).map fun e => ⟨negative, whole, fraction, e⟩

/-- The numeral that a text writes. -/
def ofText? (s : String) : Option Numeral :=
  read? s.toList

/-- A positive decimal `m · 10 ^ e` as a double; beyond the range of doubles, infinity or zero. -/
def scale (m : Nat) (e : Int) : Float :=
  let size : Int := (Nat.toDigits 10 m).length
  if m = 0 then 0
  else if 310 < size + e then 1 / 0
  else if size + e < -330 then 0
  else Float.ofScientific m (e < 0) e.natAbs

/-- The double nearest to a numeral. -/
def toFloat (n : Numeral) : Float :=
  let x := scale (digitsValue (n.whole ++ n.fraction)) (n.exponent - n.fraction.length)
  if n.negative then -x else x

end Numeral

/-- Whether a text is a numeral. -/
def isNumeric (s : String) : Bool :=
  (Numeral.ofText? s).isSome

end TapScript
