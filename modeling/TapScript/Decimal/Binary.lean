/-! # Binary parts of a double

A finite double is a signed integer times a power of two. The integer part, the floor and the
remainder of a double are then exact integer arithmetic.
-/

namespace TapScript.Decimal

/-- A double taken apart. A finite one is `± mantissa · 2 ^ exponent`. -/
inductive Binary
  | finite (negative : Bool) (mantissa : Nat) (exponent : Int)
  | infinite (negative : Bool)
  | nan
  deriving DecidableEq, Repr

namespace Binary

/-- The parts of a double, read off its bits. -/
def ofFloat (x : Float) : Binary :=
  let bits := x.toBits.toNat
  let negative := Nat.pow 2 63 ≤ bits
  let biased : Nat := bits / Nat.pow 2 52 % Nat.pow 2 11
  let low := bits % Nat.pow 2 52
  if biased = 0x7ff then
    if low = 0 then .infinite negative else .nan
  else if biased = 0 then .finite negative low (-1074)
  else .finite negative (low + Nat.pow 2 52) ((biased : Int) - 1075)

/-- `m · 2 ^ e` rounded down. -/
def scaleDown (m : Int) (e : Int) : Int :=
  if 0 ≤ e then m * (Nat.pow 2 e.toNat : Nat) else m.fdiv (Nat.pow 2 (-e).toNat : Nat)

/-- `m · 2 ^ e` rounded to the nearest integer, a half to the even one. -/
def scaleNearest (m : Int) (e : Int) : Int :=
  if 0 ≤ e then m * (Nat.pow 2 e.toNat : Nat)
  else
    let unit : Int := (Nat.pow 2 (-e).toNat : Nat)
    let low := m.fdiv unit
    let twice := 2 * (m - low * unit)
    if twice < unit then low
    else if unit < twice then low + 1
    else if low % 2 = 0 then low else low + 1

/-- The mantissa with its sign. -/
def signed (negative : Bool) (m : Nat) : Int :=
  if negative then -m else m

end Binary

/-- The integer that a finite double rounds down to. -/
def floor? (x : Float) : Option Int :=
  match Binary.ofFloat x with
  | .finite s m e => some (Binary.scaleDown (Binary.signed s m) e)
  | _ => none

/-- The integer nearest to a finite double, a half going to the even one. -/
def nearest? (x : Float) : Option Int :=
  match Binary.ofFloat x with
  | .finite s m e => some (Binary.scaleNearest (Binary.signed s m) e)
  | _ => none

/-- The integer part of a finite double. -/
def truncate? (x : Float) : Option Int :=
  match Binary.ofFloat x with
  | .finite s m e => some (Binary.signed s (Binary.scaleDown m e).toNat)
  | _ => none

/-- Whether a double is a whole number. -/
def isWhole (x : Float) : Bool :=
  match Binary.ofFloat x with
  | .finite _ m e => 0 ≤ e || m % Nat.pow 2 (-e).toNat == 0
  | _ => false

/-- How an integer compares with a double; nothing when the double is no number. -/
def compareInt (n : Int) (x : Float) : Option Ordering :=
  match Binary.ofFloat x with
  | .nan => none
  | .infinite negative => some (if negative then .gt else .lt)
  | .finite s m e =>
    let v := Binary.signed s m
    some (if 0 ≤ e then compare n (v * (Nat.pow 2 e.toNat : Nat))
      else compare (n * (Nat.pow 2 (-e).toNat : Nat)) v)

end TapScript.Decimal
