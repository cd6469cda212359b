import TapScript.Decimal.Binary

/-! # Shortest decimals

The shortest decimal of a double is the one with the fewest digits among those that read back
as the same double, and of those the nearest.
-/

namespace TapScript.Decimal

/-- A positive decimal `0.d₁d₂… · 10 ^ point`. -/
structure Digits where
  digits : List Nat
  point : Int
  deriving DecidableEq, Repr

/-- The decimal digits of a number, most significant first. -/
def digitsOf (n : Nat) : List Nat :=
  (Nat.toDigits 10 n).map fun c => c.toNat - '0'.toNat

/-- Digits without the zeros at their end. -/
def dropZeros (ds : List Nat) : List Nat :=
  (ds.reverse.dropWhile (· == 0)).reverse

/-- The reals that round to `m · 2 ^ e`, as a denominator, the value and both ends over it. -/
structure Interval where
  den : Nat
  low : Nat
  value : Nat
  high : Nat
  closed : Bool

namespace Interval

/-- The rounding interval of `m · 2 ^ e`; just above a power of two the lower half is narrower. -/
def ofParts (m : Nat) (e : Int) : Interval :=
  let low := if m = Nat.pow 2 52 ∧ e ≠ -1074 then 4 * m - 1 else 4 * m - 2
  let up := Nat.pow 2 (e - 2).toNat
  let down := Nat.pow 2 (2 - e).toNat
  ⟨down, low * up, 4 * m * up, (4 * m + 2) * up, m % 2 = 0⟩

/-- Whether `n / scale` lies in the interval. -/
def holds (i : Interval) (n scale : Nat) : Bool :=
  if i.closed then i.low * scale ≤ n * i.den && n * i.den ≤ i.high * scale
  else i.low * scale < n * i.den && n * i.den < i.high * scale

/-- The multiple of `1 / scale` in the interval that is nearest to the value. -/
def onGrid? (i : Interval) (scale : Nat) : Option Nat :=
  let below := i.value * scale / i.den
  let above := below + 1
  match i.holds below scale, i.holds above scale with
  | true, true =>
    let twice := 2 * (i.value * scale - below * i.den)
    some (if twice < i.den || (twice == i.den && below % 2 == 0) then below else above)
  | true, false => some below
  | false, true => some above
  | false, false => none

/-- The interval with all numbers multiplied by `10 ^ k`. -/
def timesTen (i : Interval) (k : Int) : Interval :=
  let up := Nat.pow 10 k.toNat
  { i with den := i.den * Nat.pow 10 (-k).toNat, low := i.low * up, value := i.value * up,
           high := i.high * up }

end Interval

/-- The power of ten that bounds a positive quotient: `10 ^ (k - 1) ≤ num / den < 10 ^ k`. -/
def magnitude (num den : Nat) : Int :=
  let guess : Int := (digitsOf num).length - (digitsOf den).length
  if num * Nat.pow 10 (-guess).toNat < den * Nat.pow 10 guess.toNat then guess else guess + 1

/-- The shortest decimal that reads back as `m · 2 ^ e`, for a positive `m`. -/
def shortest (m : Nat) (e : Int) : Digits :=
  let i := Interval.ofParts m e
  let k := magnitude i.value i.den
  let scaled := i.timesTen (-k)
  let found : Option (Nat × Nat) :=
    (List.range 17).findSome? fun n => (scaled.onGrid? (Nat.pow 10 (n + 1))).map (n + 1, ·)
  match found with
  | some (n, d) =>
    let ds := digitsOf d
    ⟨dropZeros ds, k + ((ds.length : Int) - (n : Int))⟩
  | none => ⟨[], 0⟩

end TapScript.Decimal
